import OpcodeShapes.Trilean

/-!
# Flag values

One value for each of the seven flags, all of them `no` to begin with. Writing
a flag leaves the other six alone, and a later write wins over an earlier one.
-/

namespace OpcodeShapes

set_option autoImplicit false

structure Flags where
  stack : Trilean := .no
  cMouth : Trilean := .no
  cap : Trilean := .no
  hat : Trilean := .no
  reporter : Trilean := .no
  boolean : Trilean := .no
  menu : Trilean := .no
  deriving DecidableEq, Repr, Inhabited

namespace Flags

def none : Flags := {}

def get (flags : Flags) : Flag → Trilean
  | .stack => flags.stack
  | .cMouth => flags.cMouth
  | .cap => flags.cap
  | .hat => flags.hat
  | .reporter => flags.reporter
  | .boolean => flags.boolean
  | .menu => flags.menu

def set (flags : Flags) (flag : Flag) (value : Trilean) : Flags :=
  match flag with
  | .stack => { flags with stack := value }
  | .cMouth => { flags with cMouth := value }
  | .cap => { flags with cap := value }
  | .hat => { flags with hat := value }
  | .reporter => { flags with reporter := value }
  | .boolean => { flags with boolean := value }
  | .menu => { flags with menu := value }

def mark (flags : Flags) (flag : Flag) : Flags := flags.set flag .yes

structure Assignment where
  flag : Flag
  value : Trilean
  deriving DecidableEq, Repr

def assign (flags : Flags) (assignments : List Assignment) : Flags :=
  assignments.foldl (fun flags a => flags.set a.flag a.value) flags

def withCap (flags : Flags) (value : Trilean) : Flags := flags.set .cap value

/-- One call of a chain: of the setter of one flag, which makes it `yes`, of the one that gives a cap
any value, or of the one for any flag. -/
inductive Setter where
  | stack
  | cMouth
  | cap
  | hat
  | reporter
  | boolean
  | menu
  | withCap (value : Trilean)
  | put (flag : Flag) (value : Trilean)
  deriving DecidableEq, Repr

def apply (flags : Flags) : Setter → Flags
  | .stack => flags.mark .stack
  | .cMouth => flags.mark .cMouth
  | .cap => flags.mark .cap
  | .hat => flags.mark .hat
  | .reporter => flags.mark .reporter
  | .boolean => flags.mark .boolean
  | .menu => flags.mark .menu
  | .withCap value => flags.withCap value
  | .put flag value => flags.set flag value

def chain (flags : Flags) (setters : List Setter) : Flags := setters.foldl apply flags

def entries (flags : Flags) : List (Flag × Trilean) :=
  Flag.all.map fun flag => (flag, flags.get flag)

def ofList (marked : List Flag) : Flags := marked.foldl mark none

/-- A hat and a cap and nothing else: the shape of a block about which nothing is known. -/
def hatCap : Flags := ofList [.hat, .cap]

theorem get_none (flag : Flag) : none.get flag = .no := by
  cases flag <;> rfl

theorem get_set (flags : Flags) (f g : Flag) (value : Trilean) :
    (flags.set f value).get g = if f = g then value else flags.get g := by
  cases f <;> cases g <;> rfl

theorem ext_get {a b : Flags} (h : ∀ flag, a.get flag = b.get flag) : a = b := by
  cases a
  cases b
  simp only [mk.injEq]
  exact ⟨h .stack, h .cMouth, h .cap, h .hat, h .reporter, h .boolean, h .menu⟩

end Flags

theorem hat_cap_get (flag : Flag) :
    Flags.hatCap.get flag = if flag = .hat ∨ flag = .cap then .yes else .no := by
  cases flag <;> rfl

theorem eq_hat_cap_iff (flags : Flags) :
    flags = Flags.hatCap ↔
      ∀ flag, flags.get flag = if flag = .hat ∨ flag = .cap then .yes else .no := by
  constructor
  · intro same flag
    rw [same, hat_cap_get]
  · intro exactly
    apply Flags.ext_get
    intro flag
    rw [hat_cap_get]
    exact exactly flag

end OpcodeShapes
