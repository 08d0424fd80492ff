import OpcodeShapes.Flags

/-!
# Shapes

The shape of a block is its opcode and the values of its flags. An opcode is
never blank; it is kept as it was given, blanks around it included. Whether
something may be attached below follows from two of the flags, and is an error
where one of them cannot be told.
-/

namespace OpcodeShapes

set_option autoImplicit false

inductive ShapeError where
  | blankOpcode
  | booleanWithoutReporter (opcode : String)
  deriving DecidableEq, Repr

def ShapeError.message : ShapeError → String
  | .blankOpcode => "shape opcode must not be empty"
  | .booleanWithoutReporter opcode =>
    "`" ++ opcode ++ "` is a boolean reporter but is not marked as a reporter"

structure Shape where
  opcode : String
  flags : Flags
  opcode_not_blank : ¬ Text.Blank opcode
  deriving DecidableEq

namespace Shape

def make (opcode : String) (flags : Flags) : Except ShapeError Shape :=
  if h : Text.Blank opcode then .error .blankOpcode else .ok ⟨opcode, flags, h⟩

def get (shape : Shape) (flag : Flag) : Trilean := shape.flags.get flag

def require (shape : Shape) (flag : Flag) : Except Indeterminate Bool :=
  (shape.get flag).toBool.mapError fun _ => ⟨some flag⟩

/-- Whether a block may be attached directly below. Neither a cap nor a reporter takes one. The
cap is asked first, so its error wins. -/
def attachable (shape : Shape) : Except Indeterminate Bool := do
  let cap ← shape.require .cap
  let reporter ← shape.require .reporter
  return !cap && !reporter

/-- Attachability with the error as the third value. -/
def attachability (shape : Shape) : Trilean :=
  match shape.attachable with
  | .ok b => .ofBool b
  | .error _ => .indeterminate

/-- The opcode up to its first underscore, or all of it. -/
def category (shape : Shape) : String :=
  String.ofList (shape.opcode.toList.takeWhile (· ≠ '_'))

/-- The one rule a catalogue author can break: what reports a truth value is a reporter. -/
def validate (shape : Shape) : Except ShapeError Unit :=
  if shape.get .boolean = .yes ∧ shape.get .reporter ≠ .yes then
    .error (.booleanWithoutReporter shape.opcode)
  else .ok ()

def toValue (shape : Shape) : Value :=
  .object <|
    [("opcode", .string shape.opcode), ("category", .string shape.category)] ++
      shape.flags.entries.map fun entry => ("is_" ++ entry.1.name, entry.2.toValue)

theorem ext_iff_opcode_flags {a b : Shape} :
    a = b ↔ a.opcode = b.opcode ∧ a.flags = b.flags := by
  cases a
  cases b
  simp

theorem make_eq_ok_iff {opcode : String} {flags : Flags} {shape : Shape} :
    make opcode flags = .ok shape ↔ shape.opcode = opcode ∧ shape.flags = flags := by
  unfold make
  split
  · rename_i blank
    simp only [reduceCtorEq, false_iff, not_and]
    intro same
    exact absurd (same ▸ blank) shape.opcode_not_blank
  · simp [ext_iff_opcode_flags, eq_comm]

theorem make_eq_error_iff {opcode : String} {flags : Flags} {e : ShapeError} :
    make opcode flags = .error e ↔ Text.Blank opcode ∧ e = .blankOpcode := by
  unfold make
  split <;> simp_all [eq_comm]

theorem validate_eq_ok_iff {shape : Shape} :
    shape.validate = .ok () ↔ (shape.get .boolean = .yes → shape.get .reporter = .yes) := by
  unfold validate
  split <;> simp_all

theorem validate_eq_error_iff {shape : Shape} {e : ShapeError} :
    shape.validate = .error e ↔
      shape.validate ≠ .ok () ∧ e = .booleanWithoutReporter shape.opcode := by
  unfold validate
  split <;> simp [eq_comm]

end Shape

end OpcodeShapes
