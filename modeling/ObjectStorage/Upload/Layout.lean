import ObjectStorage.Number.Checked

/-! How a file is cut into the parts of a multipart upload. -/

namespace ObjectStorage.Upload

/-- The default size from which on a file is sent in parts: 8 MiB. -/
def defaultThreshold : Nat := 8 * 1024 * 1024

/-- The default size of a part: 8 MiB. -/
def defaultPartSize : Nat := 8 * 1024 * 1024

/-- The least part size that the service takes: 5 MiB. -/
def minPartSize : Nat := 5 * 1024 * 1024

/-- The greatest part size that the service takes: 5 GiB. -/
def maxPartSize : Nat := 5 * 1024 * 1024 * 1024

/-- The greatest number of parts that the service takes. -/
def maxParts : Nat := 10000

/-- Brings a part size into the range that the service takes. -/
def clampPartSize (size : Nat) : Nat := max minPartSize (min size maxPartSize)

/-- When files are sent in parts, and how large the parts shall be. -/
structure Sizing where
  /-- Files of this size or larger are sent in parts. -/
  threshold : Nat := defaultThreshold
  /-- The part size wished for. -/
  partSize : Nat := defaultPartSize
  deriving DecidableEq, Repr

namespace Sizing

/-- Sets the size from which on files are sent in parts. -/
def withThreshold (sizing : Sizing) (size : Nat) : Sizing := { sizing with threshold := size }

/-- Sets the part size wished for, brought into the range that the service takes. -/
def withPartSize (sizing : Sizing) (size : Nat) : Sizing :=
  { sizing with partSize := clampPartSize size }

/-- A choice that a program makes about its uploads. -/
inductive Choice where
  /-- From which size on files are sent in parts. -/
  | threshold (size : Nat)
  /-- The part size wished for. -/
  | partSize (size : Nat)
  deriving DecidableEq, Repr

/-- The sizing after one choice more. -/
def choose (sizing : Sizing) : Choice → Sizing
  | .threshold size => sizing.withThreshold size
  | .partSize size => sizing.withPartSize size

/-- The sizing that choices lead to, made one after another from the default on. -/
def ofChoices (choices : List Choice) : Sizing := choices.foldl choose {}

/-- Whether a file is sent in parts. -/
def usesParts (sizing : Sizing) (fileSize : Nat) : Bool := decide (sizing.threshold ≤ fileSize)

/-- The part size for a file: the one wished for, or as much more as keeps the number of parts
within the limit. -/
def partSizeFor (sizing : Sizing) (fileSize : Nat) : Except Number.ArithmeticFault Nat := do
  let parts ← Number.checkedCeilDiv fileSize sizing.partSize
  -- Too many parts are avoided by even shares, which may be larger than a part can be.
  if parts ≤ maxParts then return sizing.partSize
  else return clampPartSize (Number.ceilDiv fileSize maxParts)

end Sizing

/-- The number of parts of a file. -/
def partCount (fileSize partSize : Nat) : Except Number.ArithmeticFault Nat :=
  Number.checkedCeilDiv fileSize partSize

/-- A range of bytes, from `start` up to but not including `stop`. -/
structure ByteRange where
  start : Nat
  stop : Nat
  deriving DecidableEq, Repr

/-- The bytes of a part. Parts are numbered from one, and only the last may be shorter. -/
def partRange (number partSize fileSize : Nat) : Except Number.ArithmeticFault ByteRange := do
  let before ← Number.checkedSub number 1
  let start ← Number.checkedMul before partSize
  -- The end is calculated before it is cut at the end of the file, so it has to fit by itself.
  let stop ← Number.checkedAdd start partSize
  return ⟨start, min stop fileSize⟩

end ObjectStorage.Upload
