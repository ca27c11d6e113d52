import ClaimStore.Text.Decimal

/-!
# Failures

Two families of failure leave the store. A raw stream or file operation fails with an `IoError`;
every other operation fails with a `Failure`, which either carries one of the ten failures that
callers branch on (`ContentError`) or only a text with its cause. Each value knows its wording.

## Main definitions

* `ClaimStore.Errno`, `ClaimStore.IoError` — failures of files and streams.
* `ClaimStore.ErrorKind`, `ClaimStore.ContentError` — the failures that callers branch on.
* `ClaimStore.Failure` — what a failed operation answers.
* `IoError.message`, `ContentError.message`, `Failure.message`, `Failure.causes` — the wording.
-/

set_option autoImplicit false

namespace ClaimStore

/-! ### Files and streams -/

/-- A condition that the file system reports by number. -/
inductive Errno where
  /-- A component of the path does not exist. -/
  | notFound
  /-- The name to be created exists. -/
  | alreadyExists
  /-- A file object cannot be mapped. -/
  | noDevice
  /-- A component of the path that has to be a directory is none. -/
  | notADirectory
  /-- The object is a directory where a file is needed. -/
  | isADirectory
  /-- A file cannot become so long. -/
  | fileTooLarge
  /-- A component, or the whole path, is longer than the file system allows. -/
  | nameTooLong
  deriving DecidableEq, Repr

/-- The text of a condition of the file system, which ends with its number. -/
def Errno.message : Errno → String
  | .notFound => "No such file or directory (os error 2)"
  | .alreadyExists => "File exists (os error 17)"
  | .noDevice => "No such device (os error 19)"
  | .notADirectory => "Not a directory (os error 20)"
  | .isADirectory => "Is a directory (os error 21)"
  | .fileTooLarge => "File too large (os error 27)"
  | .nameTooLong => "File name too long (os error 36)"

/-- The text of a growth that the byte or entry limit does not admit. -/
def overCapacityMessage (requested available : Nat) : String :=
  s!"content capacity exceeded: requested {requested} but only {available} available"

/-- A failure of a raw file or stream operation. -/
inductive IoError where
  /-- A condition that the file system reports. -/
  | os (e : Errno)
  /-- The path holds a NUL character. -/
  | nulInPath
  /-- The file length asked for is above the largest that can be asked for. -/
  | lengthTooLarge
  /-- The file is not in the expected format. -/
  | invalidData
  /-- The file ends before the bytes that were to be read. -/
  | unexpectedEnd
  /-- The writer was closed before. -/
  | writerClosed
  /-- The stored value cannot grow by the bytes to be written. -/
  | overCapacity (requested available : Nat)
  /-- Any other failure, known by its text alone. -/
  | other (text : String)
  deriving DecidableEq, Repr

/-- The text of a raw failure. -/
def IoError.message : IoError → String
  | .os e => e.message
  | .nulInPath => "file name contained an unexpected NUL byte"
  | .lengthTooLarge => Text.DecimalError.tooLarge.message
  | .invalidData => "invalid data"
  | .unexpectedEnd => "failed to fill whole buffer"
  | .writerClosed => "content writer is closed"
  | .overCapacity requested available => overCapacityMessage requested available
  | .other text => text

/-! ### Failures that callers branch on -/

/-- The kinds of failure that callers branch on. -/
inductive ErrorKind where
  | io
  | insufficientBackingStore
  | notSupported
  | invalidMapping
  | outOfBounds
  | writerActive
  | notFound
  | capacityExceeded
  | repositoryUnavailable
  | claimInUse
  deriving DecidableEq, Repr

/-- A failure that callers branch on, with what it was about. -/
inductive ContentError where
  /-- The file operation `operation` failed on `path`. -/
  | io (operation path : String) (source : IoError)
  /-- A read-only mapping asks for more bytes than are stored. -/
  | insufficientBackingStore (claim : String) (requested available : Nat)
  /-- The operation needs a writable mapping. -/
  | notSupported (operation : String)
  /-- The operation needs a mapping that exposes a view. -/
  | invalidMapping (operation : String)
  /-- The range of `len` bytes at `offset` is not inside the `size` bytes there are. -/
  | outOfBounds (offset len size : Nat)
  /-- The content is being written, or is read where a writer needs it alone. -/
  | writerActive (claim : String)
  /-- Nothing is stored for the claim. -/
  | notFound (claim : String)
  /-- A growth is above what the limit leaves. -/
  | capacityExceeded (requested available : Nat)
  /-- The claim has no repository, or its repository is closed. -/
  | repositoryUnavailable (claim : String)
  /-- The content is referenced and cannot be removed. -/
  | claimInUse (claim : String) (references : Nat)
  deriving DecidableEq, Repr

namespace ContentError

/-- The kind of a failure. -/
def kind : ContentError → ErrorKind
  | .io .. => .io
  | .insufficientBackingStore .. => .insufficientBackingStore
  | .notSupported _ => .notSupported
  | .invalidMapping _ => .invalidMapping
  | .outOfBounds .. => .outOfBounds
  | .writerActive _ => .writerActive
  | .notFound _ => .notFound
  | .capacityExceeded .. => .capacityExceeded
  | .repositoryUnavailable _ => .repositoryUnavailable
  | .claimInUse .. => .claimInUse

/-- The text of a failure. -/
def message : ContentError → String
  | .io operation path source => s!"failed to {operation} '{path}': {source.message}"
  | .insufficientBackingStore claim requested available =>
    s!"cannot map {requested} bytes of '{claim}' read-only: " ++
      s!"backing store holds {available} bytes"
  | .notSupported operation => s!"{operation} is not supported on a read-only mapping"
  | .invalidMapping operation => s!"{operation} on an unmapped or invalid mapping"
  | .outOfBounds offset len size =>
    s!"{len} bytes at offset {offset} out of bounds (mapped size={size})"
  | .writerActive claim => s!"claim '{claim}' already has an active writer"
  | .notFound claim => s!"no content stored for claim '{claim}'"
  | .capacityExceeded requested available => overCapacityMessage requested available
  | .repositoryUnavailable claim => s!"repository for claim '{claim}' is no longer available"
  | .claimInUse claim references =>
    s!"claim '{claim}' is still referenced ({references} holders)"

/-- The texts of what lies behind a failure. -/
def causes : ContentError → List String
  | .io _ _ source => [source.message]
  | _ => []

end ContentError

/-! ### Failed operations -/

/-- The reason why a database file cannot be opened. -/
inductive DatabaseFault where
  /-- The file is open as a database already. -/
  | alreadyOpen
  /-- The file cannot be opened or holds something else. -/
  | io (e : IoError)
  /-- The file has a version of the format that has to be converted first. -/
  | outdatedFormat (version : UInt8)
  /-- The file has a version of the format that is not known. -/
  | unknownFormat (version : UInt8)
  deriving DecidableEq, Repr

/-- The text of a database fault. -/
def DatabaseFault.message : DatabaseFault → String
  | .alreadyOpen => "Database already open. Cannot acquire lock."
  | .io e => s!"I/O error: {e.message}"
  | .outdatedFormat version =>
    s!"Manual upgrade required. Expected file format version 2, but file is version {version}"
  | .unknownFormat version =>
    s!"DB corrupted: Expected file format version <= 3, found {version}"

/-- What a failed operation answers. -/
inductive Failure where
  /-- A failure that callers branch on. -/
  | content (e : ContentError)
  /-- A payload could not be written whole. -/
  | writeStream (e : IoError)
  /-- A read in the middle of filling a buffer failed. -/
  | readStream (e : IoError)
  /-- A database file could not be opened. -/
  | openDatabase (path : String) (fault : DatabaseFault)
  /-- No repository class has this name. -/
  | unknownClass (name : String)
  /-- A property that has to be a decimal word is none. -/
  | invalidProperty (key value : String) (e : Text.DecimalError)
  /-- A repository is to be opened before its kind was chosen. -/
  | kindUnspecified
  /-- A buffer of fixed capacity is to grow past it. -/
  | overBuffer (capacity : Nat)
  /-- An unmap hook failed with this text. -/
  | hook (text : String)
  deriving DecidableEq, Repr

namespace Failure

/-- The kind of a failure that callers branch on. -/
def kind? : Failure → Option ErrorKind
  | .content e => some e.kind
  | _ => none

/-- The outermost text of a failure. -/
def message : Failure → String
  | .content e => e.message
  | .writeStream _ => "failed to write content stream"
  | .readStream _ => "failed to read content stream"
  | .openDatabase path _ => s!"failed to open content database '{path}'"
  | .unknownClass name => s!"unknown content repository class '{name}'"
  | .invalidProperty key value _ => s!"invalid value '{value}' for property '{key}'"
  | .kindUnspecified =>
    "repository kind not specified: call .file_system(), .volatile() or .database() first"
  | .overBuffer capacity => s!"fixed buffer holds at most {capacity} bytes"
  | .hook text => text

/-- The texts behind the outermost one, from the outside in. -/
def causes : Failure → List String
  | .content e => e.causes
  | .writeStream e => [e.message]
  | .readStream e => [e.message]
  | .openDatabase _ fault => [fault.message]
  | .invalidProperty _ _ e => [e.message]
  | .unknownClass _ | .kindUnspecified | .overBuffer _ | .hook _ => []

end Failure

end ClaimStore
