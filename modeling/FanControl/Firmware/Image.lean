import FanControl.Sha256

/-!
# Firmware images

A firmware image is a file: a name and bytes. It is recognised by its digest.
-/

namespace FanControl

/-- A firmware file. -/
structure FirmwareImage where
  name : String
  bytes : Bytes
deriving DecidableEq, Repr

namespace FirmwareImage

/-- How many bytes the image has. -/
def size (i : FirmwareImage) : Nat := i.bytes.length

/-- The digest of the image in lower-case hexadecimal. -/
def sha256 (i : FirmwareImage) : String := Text.hex (Sha256.digest i.bytes)

end FirmwareImage

end FanControl
