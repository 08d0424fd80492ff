import OpcodeShapes.Proofs.Refinement

/-!
# Sessions

A session is a script of operations, builds and questions. It can be held with
drafts and the registries built from them or with ledgers and the books that
they become, and nobody who only reads the answers can tell which of the two it
was.
-/

namespace OpcodeShapes

set_option autoImplicit false

/-- A question about what was built last. -/
inductive Query where
  | named (name : String)
  | ofOpcode (opcode : String)
  | findOpcode (opcode : String)
  | containsOpcode (opcode : String)
  | fallback
  | shapes
  | entries
  | size

/-- A line of a script. -/
inductive Line where
  | perform (operation : Operation)
  | containsName (name : String)
  | build
  | ask (query : Query)

/-- What a line is answered. -/
inductive Answer where
  | reply (reply : Except RegistryError Reply)
  | truth (truth : Bool)
  | built (result : Except RegistryError Unit)
  | nothingBuilt
  | shape (shape : Except RegistryError Shape)
  | shapeIfAny (shape : Option Shape)
  | shapes (shapes : List Shape)
  | entries (entries : List Entry)
  | size (size : Nat)

/-- One way to keep a registry: its states while it is made, and what they become. -/
structure Keeper (State Built : Type) where
  start : State
  perform : Operation → State → Except RegistryError Reply × State
  containsName : State → String → Bool
  build : State → Except RegistryError Built
  answer : Built → Query → Answer

namespace Keeper

variable {State Built : Type}

/-- The answers to a script, from a state and what was built last. Building uses the state up,
whether it succeeds or not. -/
def answers (keeper : Keeper State Built) (state : State) (built : Option Built) :
    List Line → List Answer
  | [] => []
  | .perform operation :: rest =>
    let (reply, next) := keeper.perform operation state
    .reply reply :: keeper.answers next built rest
  | .containsName name :: rest =>
    .truth (keeper.containsName state name) :: keeper.answers state built rest
  | .build :: rest =>
    match keeper.build state with
    | .ok result => .built (.ok ()) :: keeper.answers keeper.start (some result) rest
    | .error reason => .built (.error reason) :: keeper.answers keeper.start none rest
  | .ask query :: rest =>
    match built with
    | some result => keeper.answer result query :: keeper.answers state built rest
    | none => .nothingBuilt :: keeper.answers state built rest

def session (keeper : Keeper State Built) (script : List Line) : List Answer :=
  keeper.answers keeper.start none script

end Keeper

def Registry.answer (registry : Registry) : Query → Answer
  | .named name => .shape (registry.named name)
  | .ofOpcode opcode => .shape (.ok (registry.ofOpcode opcode))
  | .findOpcode opcode => .shapeIfAny (registry.findOpcode? opcode)
  | .containsOpcode opcode => .truth (registry.containsOpcode opcode)
  | .fallback => .shape (.ok registry.fallback)
  | .shapes => .shapes registry.shapes
  | .entries => .entries registry.entries
  | .size => .size registry.size

def Book.answer (book : Book) : Query → Answer
  | .named name => .shape (book.named name)
  | .ofOpcode opcode => .shape (.ok (book.ofOpcode opcode))
  | .findOpcode opcode => .shapeIfAny (book.findOpcode? opcode)
  | .containsOpcode opcode => .truth (book.containsOpcode opcode)
  | .fallback => .shape (.ok book.fallback)
  | .shapes => .shapes (book.entries.map Entry.shape)
  | .entries => .entries book.entries
  | .size => .size book.entries.length

def Keeper.indexed : Keeper Draft Registry where
  start := Draft.empty
  perform operation draft := outcome operation.perform draft
  containsName := Draft.containsName
  build := Draft.build
  answer := Registry.answer

def Keeper.plain : Keeper Ledger Book where
  start := {}
  perform operation ledger := outcome (Ledger.perform operation) ledger
  containsName := Ledger.containsName
  build := Ledger.build
  answer := Book.answer

theorem book_answer {registry : Registry} (sound : registry.Sound) (query : Query) :
    registry.book.answer query = registry.answer query := by
  have byOpcode (opcode : String) :
      registry.book.findOpcode? opcode = registry.findOpcode? opcode :=
    (sound.find_opcode_eq opcode).symm
  cases query with
  | named name =>
      have same : registry.book.named name = registry.named name := by
        rw [Registry.named, sound.find_name_eq, Book.named, Registry.book]
        cases registry.entries.find? fun entry => entry.name = name <;> rfl
      simp only [Book.answer, Registry.answer, same]
  | ofOpcode opcode =>
      simp only [Book.answer, Registry.answer, Book.ofOpcode, Registry.ofOpcode, byOpcode]
      rfl
  | findOpcode opcode => simp only [Book.answer, Registry.answer, byOpcode]
  | containsOpcode opcode =>
      have same : registry.book.containsOpcode opcode = registry.containsOpcode opcode := by
        have listed := sound.opcodes.mem_iff opcode
        rw [Bool.eq_iff_iff, Registry.containsOpcode, Std.ExtTreeMap.contains_iff_mem, listed]
        simp [Book.containsOpcode, Registry.book, Entry.opcodes]
      simp only [Book.answer, Registry.answer, same]
  | fallback => rfl
  | shapes => rfl
  | entries => rfl
  | size => rfl

/-- The two keepers stay side by side: the ledger is always the one of the draft and the book the
one of the registry. -/
theorem answers_eq (script : List Line) (draft : Draft) (sound : draft.Sound)
    (built : Option Registry) (right : ∀ registry, built = some registry → registry.Sound) :
    Keeper.indexed.answers draft built script =
      Keeper.plain.answers draft.ledger (built.map Registry.book) script := by
  induction script generalizing draft built with
  | nil => rfl
  | cons line rest ih =>
      cases line with
      | perform operation =>
          have refined := perform_refines operation draft sound
          have next := reached_sound (perform_reaches operation draft) sound
          have others := ih _ next built right
          simp only [Keeper.answers, Keeper.plain, Keeper.indexed, refined] at others ⊢
          rw [others]
      | containsName name =>
          have others := ih draft sound built right
          simp only [Keeper.answers, Keeper.plain, Keeper.indexed, ledger_contains_name sound] at others ⊢
          rw [others]
      | build =>
          have refined := ledger_build sound
          have again := ih Draft.empty empty_draft_sound
          simp only [Keeper.answers, Keeper.plain, Keeper.indexed, refined] at again ⊢
          cases result : draft.build with
          | error reason =>
              have others := again none (by simp)
              simp only [Except.map, others]
              rfl
          | ok registry =>
              have fresh : registry.Sound := (built_from result).sound sound
              have others := again (some registry) fun _ same => Option.some.inj same ▸ fresh
              simp only [Except.map, others]
              rfl
      | ask query =>
          have others := ih draft sound built right
          cases built with
          | none =>
              simp only [Keeper.answers, Option.map_none] at others ⊢
              rw [others]
          | some registry =>
              have same := book_answer (right registry rfl) query
              simp only [Keeper.answers, Option.map_some] at others ⊢
              rw [others]
              exact congrArg (· :: _) same.symm

/-- Whatever the script, whoever holds the session with indexes gives the answers of whoever goes
through a list for each of them: every reply and refusal, every build, every look-up. -/
theorem indexed_session_eq_plain_session (script : List Line) :
    Keeper.indexed.session script = Keeper.plain.session script :=
  answers_eq script Draft.empty empty_draft_sound none (by simp)

end OpcodeShapes
