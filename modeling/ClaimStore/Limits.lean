/-!
# Limits and fixed names

The numbers and property names that the store and its configuration share.

## Main definitions

* `ClaimStore.Limits.unmappedSize` — the size that a mapping shows once it exposes no view.
* `ClaimStore.Limits.maxFileTransfer` — the number of bytes that a file moves at once.
* `ClaimStore.Limits.minVolatileBytes` — the floor under the byte limit of a volatile repository.
* `ClaimStore.Limits.defaultVolatileBytes`, `ClaimStore.Limits.defaultVolatileCount` — the limits
  of a volatile repository for which none are given.
-/

set_option autoImplicit false

namespace ClaimStore.Limits

/-- The size that a mapping shows once it exposes no view: the largest 64-bit word, which is
never the length of a mapping. -/
def unmappedSize : Nat := 0xFFFFFFFFFFFFFFFF

/-- The number of unmap hooks that a mapping keeps without allocating. No function of the store
reads it. -/
def inlineUnmapHooks : Nat := 2

/-- The largest number of bytes that one read or write of a file moves: the largest signed 32-bit
word, rounded down to a whole page. -/
def maxFileTransfer : Nat := 0x7FFFF000

/-- The byte limit of a volatile repository for which none is given: 10 MiB. -/
def defaultVolatileBytes : UInt64 := 10 * 1024 * 1024

/-- The entry limit of a volatile repository for which none is given. -/
def defaultVolatileCount : UInt64 := 10000

/-- The floor under the byte limit of a volatile repository: a lower limit is raised to it. -/
def minVolatileBytes : UInt64 := 4 * 1024

/-- The directory of a file repository for which none is given. -/
def defaultContentDirectory : String := "./content_repository"

/-- The file of a database repository for which none is given. -/
def defaultDatabasePath : String := "./dbcontentrepository"

/-- The name of the table that holds the rows of a database repository. The rows of a database are
all in that one table, so no function of the store reads it. -/
def contentTableName : String := "content"

/-- The property that names the repository class. -/
def classProperty : String := "nifi.content.repository.class.name"

/-- The property that names the directory of a file repository. -/
def directoryProperty : String := "nifi.content.repository.directory.default"

/-- The property that names the file of a database repository. -/
def databaseProperty : String := "nifi.database.content.repository.directory.default"

/-- The property that gives the byte limit of a volatile repository. -/
def volatileBytesProperty : String := "nifi.volatile.repository.options.content.max.bytes"

/-- The property that gives the entry limit of a volatile repository. -/
def volatileCountProperty : String := "nifi.volatile.repository.options.content.max.count"

end ClaimStore.Limits
