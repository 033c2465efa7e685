import TextGrammar.Text.CodePoint

/-!
Format texts, in which a percent sign opens a directive: flags, a width, a
precision, a size letter and last the letter of a conversion. A directive takes
one operand, and so does a star in the place of a width or precision. A percent
sign is written as two of them with nothing in between. Nothing is written out
here; a text is only checked against a single whole number as its operand.
-/

namespace TextGrammar

/-- Why a format text does not go with a single operand. -/
inductive FormatError where
  | incomplete
  | widthTooLarge
  | precisionTooLarge
  /-- A precision that is allowed, but not for the digits of a whole number. -/
  | tooManyDigits
  /-- A directive writes more than memory can hold. -/
  | outOfMemory
  | badConversion (point : CodePoint) (place : Nat)
  /-- A directive asks for a part of its operand by name. -/
  | needsMapping
  | noOperandLeft
  | unusedOperand
  deriving DecidableEq

namespace Format

/-- The size that a directive asks for; a part that is not given counts as zero. -/
structure Extent where
  width : Nat
  precision : Nat

/-- Where the reader of a format text stands. -/
inductive Stage where
  | outside
  | opened
  | flags
  | width (extent : Extent)
  | widthDone
  | point (extent : Extent)
  | precision (extent : Extent)
  | precisionDone (extent : Extent)
  | sized (extent : Extent)

def noExtent : Extent := ⟨0, 0⟩

/-- What a step leaves: the next stage, and whether the operand is taken. -/
abbrev Progress := Except FormatError (Stage × Bool)

def isFlag (point : CodePoint) : Bool := (Text.ofString "-+ #0").contains point

def isSizeLetter (point : CodePoint) : Bool := (Text.ofString "hlL").contains point

/-- The letters that write a whole number in digits. -/
def isWholeConversion (point : CodePoint) : Bool := (Text.ofString "diuoxX").contains point

def isConversion (point : CodePoint) : Bool :=
  isWholeConversion point || (Text.ofString "sraeEfFgGc").contains point

def digit? (point : CodePoint) : Option Nat :=
  if 48 ≤ point.toNat && point.toNat ≤ 57 then some (point.toNat - 48) else none

def widthLimit : Nat := Nat.pow 2 63 - 1

def precisionLimit : Nat := Nat.pow 2 31 - 1

/-- How many digits of a whole number a directive can ask for. -/
def digitsLimit : Nat := precisionLimit - 3

/-- The widest directive that memory has room for. -/
def widthRoom : Nat := Nat.pow 2 35 - 1

def takeOperand (taken : Bool) (stage : Stage) : Progress :=
  if taken then .error .noOperandLeft else .ok (stage, true)

/-- The end of a directive, which takes its operand before anything else and is written at once. -/
def convert (place : Nat) (taken : Bool) (extent : Extent) (point : CodePoint) : Progress := do
  let next ← takeOperand taken .outside
  if !isConversion point then .error (.badConversion point place)
  else if isWholeConversion point && digitsLimit < extent.precision then .error .tooManyDigits
  else if widthRoom < extent.width then .error .outOfMemory
  else return next

def afterPrecision (place : Nat) (taken : Bool) (extent : Extent) (point : CodePoint) : Progress :=
  if isSizeLetter point then .ok (.sized extent, taken) else convert place taken extent point

def afterWidth (place : Nat) (taken : Bool) (extent : Extent) (point : CodePoint) : Progress :=
  if point = '.' then .ok (.point extent, taken) else afterPrecision place taken extent point

def widen (taken : Bool) (extent : Extent) (digit : Nat) : Progress :=
  let width := 10 * extent.width + digit
  if widthLimit < width then .error .widthTooLarge else .ok (.width { extent with width }, taken)

def refine (taken : Bool) (extent : Extent) (digit : Nat) : Progress :=
  let precision := 10 * extent.precision + digit
  if precisionLimit < precision then .error .precisionTooLarge
  else .ok (.precision { extent with precision }, taken)

def afterFlags (place : Nat) (taken : Bool) (point : CodePoint) : Progress :=
  if isFlag point then .ok (.flags, taken)
  else if point = '*' then takeOperand taken .widthDone
  else
    match digit? point with
    | some digit => widen taken noExtent digit
    | none => afterWidth place taken noExtent point

def step (place : Nat) (taken : Bool) (point : CodePoint) : Stage → Progress
  | .outside => .ok (if point = '%' then .opened else .outside, taken)
  | .opened =>
      if point = '%' then .ok (.outside, taken)
      else if point = '(' then .error .needsMapping
      else afterFlags place taken point
  | .flags => afterFlags place taken point
  | .width extent =>
      match digit? point with
      | some digit => widen taken extent digit
      | none => afterWidth place taken extent point
  | .widthDone => afterWidth place taken noExtent point
  | .point extent =>
      if point = '*' then takeOperand taken (.precisionDone extent)
      else
        match digit? point with
        | some digit => refine taken extent digit
        | none => afterPrecision place taken extent point
  | .precision extent =>
      match digit? point with
      | some digit => refine taken extent digit
      | none => afterPrecision place taken extent point
  | .precisionDone extent => afterPrecision place taken extent point
  | .sized extent => convert place taken extent point

def read (stage : Stage) (place : Nat) (taken : Bool) : Text → Except FormatError Unit
  | [] =>
      match stage with
      | .outside => if taken then .ok () else .error .unusedOperand
      | _ => .error .incomplete
  | point :: text => do
      let (next, spent) ← step place taken point stage
      read next (place + 1) spent text

/-- Whether the text takes a single whole number as its operand. -/
def check (text : Text) : Except FormatError Unit := read .outside 0 false text

end Format

end TextGrammar
