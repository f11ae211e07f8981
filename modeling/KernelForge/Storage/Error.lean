import KernelForge.Element.Basic
import KernelForge.Text.Quoted

/-!
# What can go wrong with operands

Every way in which memory, matrices, banks and views refuse a request has its own constructor;
`message` gives the wording.
-/

namespace KernelForge

/-- What is wrong with the layout of a matrix. -/
inductive LayoutFault where
  | leadingTooSmall (leading columns : UInt64)
  | subOutside (sub leading : UInt64)
  deriving DecidableEq, Repr

/-- What is wrong with the blocks of a view. -/
inductive ViewFault where
  /-- The maps of rows, columns and strides do not all have one entry for each block. -/
  | mapLengths (blocks : Nat)
  | differingTypes
  | exceedsMatrix (block : Nat) (row column : UInt64)
  | strideTooWide (stride : UInt64)
  deriving DecidableEq, Repr

/-- Why a request on memory or on an operand was refused. -/
inductive StorageError where
  | emptyShape (what : String) (shape : List UInt64)
  | sizeMismatch (expected : UInt64) (actual : Nat)
  | typeMismatch (expected actual : ElementType)
  | invalidLayout (fault : LayoutFault)
  | bankMember (index : Nat)
  | outOfBounds (index : UInt64) (length : Nat)
  | invalidView (fault : ViewFault)
  /-- A range that begins at `offset` does not lie in a buffer. -/
  | copyRange (offset length size : Nat)
  | allocation (size : UInt64)
  /-- An operation on sizes or addresses leaves the 64-bit range. This is no refusal: the program
  ends. -/
  | overflow (operation : String)
  deriving DecidableEq, Repr

/-- The wording of what is wrong with a layout. -/
def LayoutFault.message : LayoutFault → String
  | leadingTooSmall leading columns =>
      "leading dimension " ++ toString leading ++ " is smaller than " ++ toString columns ++
        " columns"
  | subOutside sub leading =>
      "leading sub-dimension " ++ toString sub ++ " outside 1..=" ++ toString leading

/-- The wording of what is wrong with blocks. -/
def ViewFault.message : ViewFault → String
  | mapLengths blocks => "index maps must all have " ++ toString blocks ++ " entries"
  | differingTypes => "mapped matrices have differing dtypes"
  | exceedsMatrix block row column =>
      "block " ++ toString block ++ " at (" ++ toString row ++ ", " ++ toString column ++
        ") exceeds its matrix"
  | strideTooWide stride => "row stride " ++ toString stride ++ " overflows i32"

/-- The wording of a refusal. The end of a range is cut to the greatest 64-bit number. -/
def StorageError.message : StorageError → String
  | emptyShape what shape =>
      what ++ " has an empty shape: " ++ Text.listText (shape.map toString)
  | sizeMismatch expected actual =>
      "size mismatch: expected " ++ toString expected ++ ", got " ++ toString actual
  | typeMismatch expected actual =>
      "dtype mismatch: expected " ++ expected.name ++ ", got " ++ actual.name
  | invalidLayout fault => "invalid layout: " ++ fault.message
  | bankMember index =>
      "matrix bank member " ++ toString index ++ " has traits that differ from the first member"
  | outOfBounds index length =>
      "index " ++ toString index ++ " out of bounds for length " ++ toString length
  | invalidView fault => "invalid view: " ++ fault.message
  | copyRange offset length size =>
      "copy operation failed: range " ++ toString offset ++ ".." ++
        toString (min (offset + length) (UInt64.size - 1)) ++ " exceeds buffer of " ++ toString size ++
        " bytes"
  | allocation size => "allocation of " ++ toString size ++ " bytes failed"
  | overflow operation => "attempt to " ++ operation ++ " with overflow"

end KernelForge
