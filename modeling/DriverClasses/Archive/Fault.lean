import DriverClasses.Archive.Inflate.Basic

/-!
# What can be wrong with an archive

`Fault` lists the causes for which an archive, or an entry of it, cannot be opened.  `short` alone
is a failure of reading: a record reaches past the end of the file.  The others find fault with what
was read.  `DataFault` is what may turn up while the data of an entry is read.
-/

namespace DriverClasses.Archive

inductive Fault where
  | short
  | noEnd
  | commentPastEnd
  | directoryOffset
  | noDirectory
  | multiDisk
  | locatorOffset
  | end64Size
  | end64PastLocator
  | end64Disk
  | end64Length
  | end64Count
  | noEnd64
  | localHeader
  | directory
  | method
  | encrypted
  | password
  deriving DecidableEq, Repr

def Fault.isReadFailure : Fault → Bool
  | short => true
  | _ => false

def Fault.message : Fault → String
  | short => "failed to fill whole buffer"
  | noEnd => "invalid Zip archive: Could not find EOCD"
  | commentPastEnd => "invalid Zip archive: EOCD comment exceeds file boundary"
  | directoryOffset => "invalid Zip archive: Invalid CDFH offset in EOCD"
  | noDirectory => "invalid Zip archive: No CDFH found"
  | multiDisk => "invalid Zip archive: Multi-disk ZIP files are not supported"
  | locatorOffset => "invalid Zip archive: Invalid EOCD64 Locator CD offset"
  | end64Size => "invalid Zip archive: Low EOCD64 record size"
  | end64PastLocator => "invalid Zip archive: EOCD64 extends beyond EOCD64 locator"
  | end64Disk => "invalid Zip archive: Invalid EOCD64: inconsistency with Locator data"
  | end64Length => "invalid Zip archive: Invalid EOCD64: inconsistent length"
  | end64Count => "invalid Zip archive: Invalid EOCD64: inconsistent number of files"
  | noEnd64 => "invalid Zip archive: Could not find EOCD64"
  | localHeader => "invalid Zip archive: Invalid local file header"
  | directory => "invalid Zip archive: Invalid Central Directory header"
  | method => "unsupported Zip archive: Compression method not supported"
  | encrypted => "unsupported Zip archive: Password required to decrypt file"
  | password => "provided password is incorrect"

inductive DataFault where
  | checksum
  | deflate (fault : Inflate.Fault)
  deriving DecidableEq, Repr

def DataFault.message : DataFault → String
  | checksum => "Invalid checksum"
  | deflate .incomplete => "incomplete deflate stream"
  | deflate .corrupt => "corrupt deflate stream"

end DriverClasses.Archive
