import OpcodeShapes.CommandLine.Command

/-!
# Which arguments make a command

Every command but one is asked for by its own arguments and by no others. Only
help is asked for in several ways: without any arguments, and by three words
whatever stands behind them. A lookup of no opcodes is a command, but no
arguments ask for it. What an argument stands for depends on its place alone,
so a name or an opcode may be empty, begin with a dash or be the word of a
command.
-/

namespace OpcodeShapes

set_option autoImplicit false

namespace Command

/-- No arguments at all, or one of three words and anything behind it. -/
inductive AsksForHelp : List String → Prop where
  | nothing : AsksForHelp []
  | word {first : String} (known : first = "help" ∨ first = "--help" ∨ first = "-h")
      (rest : List String) : AsksForHelp (first :: rest)

/-- The commands that have arguments of their own. -/
def Renderable (command : Command) : Prop := command ≠ .help ∧ command ≠ .lookup []

theorem parse_render {command : Command} (renderable : command.Renderable) :
    parse command.render = .ok command := by
  cases command with
  | lookup opcodes =>
      cases opcodes with
      | nil => exact absurd rfl renderable.2
      | cons first rest => rfl
  | named name => rfl
  | list category => cases category <;> rfl
  | categories => rfl
  | help => exact absurd rfl renderable.1

theorem parse_help {args : List String} (asks : AsksForHelp args) : parse args = .ok .help := by
  cases asks with
  | nothing => rfl
  | word known rest => rcases known with rfl | rfl | rfl <;> rfl

theorem parsed_cases {args : List String} {command : Command} (parsed : parse args = .ok command) :
    command = .help ∧ AsksForHelp args ∨ command.Renderable ∧ command.render = args := by
  revert parsed
  fun_cases parse args with
  | case1 =>
      intro parsed
      cases parsed
      exact .inl ⟨rfl, .nothing⟩
  | case2 => nofun
  | case3 opcodes some =>
      intro parsed
      cases parsed
      exact .inr ⟨⟨nofun, fun same => some (Command.lookup.inj same)⟩, rfl⟩
  | case4 | case5 | case6 | case7 =>
      intro parsed
      cases parsed
      exact .inr ⟨⟨nofun, nofun⟩, rfl⟩
  | case8 rest =>
      intro parsed
      cases parsed
      exact .inl ⟨rfl, .word (.inl rfl) rest⟩
  | case9 rest =>
      intro parsed
      cases parsed
      exact .inl ⟨rfl, .word (.inr (.inl rfl)) rest⟩
  | case10 rest =>
      intro parsed
      cases parsed
      exact .inl ⟨rfl, .word (.inr (.inr rfl)) rest⟩
  | case11 word rest => nofun

theorem parse_eq_ok_iff (args : List String) (command : Command) :
    parse args = .ok command ↔
      command = .help ∧ AsksForHelp args ∨ command.Renderable ∧ command.render = args := by
  constructor
  · exact parsed_cases
  · rintro (⟨rfl, asks⟩ | ⟨renderable, rfl⟩)
    · exact parse_help asks
    · exact parse_render renderable

/-- The error for a word and what stands behind it: a lone `lookup` has one of its own. -/
def refusal (word : String) (rest : List String) : ParseError :=
  if word = "lookup" ∧ rest = [] then .noOpcode else .unrecognized word rest

theorem parse_error_cases {args : List String} {e : ParseError} (refused : parse args = .error e) :
    ∃ word rest, args = word :: rest ∧ e = refusal word rest := by
  revert refused
  fun_cases parse args with
  | case2 =>
      intro refused
      cases refused
      exact ⟨"lookup", [], rfl, rfl⟩
  | case11 word rest notAlone =>
      intro refused
      cases refused
      exact ⟨word, rest, rfl, (if_neg fun alone => notAlone alone.1 alone.2).symm⟩
  | case1 | case3 | case4 | case5 | case6 | case7 | case8 | case9 | case10 => nofun

theorem parse_refused {args : List String} (noHelp : ¬ AsksForHelp args)
    (unrendered : ∀ command : Command, command.Renderable → command.render ≠ args) :
    ∃ word rest, args = word :: rest ∧ parse args = .error (refusal word rest) := by
  cases parsed : parse args with
  | ok command =>
      rcases parsed_cases parsed with ⟨_, asks⟩ | ⟨renderable, rendered⟩
      · exact absurd asks noHelp
      · exact absurd rendered (unrendered command renderable)
  | error e =>
      rcases parse_error_cases parsed with ⟨word, rest, split, rfl⟩
      exact ⟨word, rest, split, rfl⟩

theorem parse_name_refused {rest : List String} (notOne : rest.length ≠ 1) :
    parse ("name" :: rest) = .error (.unrecognized "name" rest) := by
  match rest with
  | [] => rfl
  | [name] => exact absurd rfl notOne
  | _ :: _ :: _ => rfl

theorem parse_list_refused {rest : List String} (several : 1 < rest.length) :
    parse ("list" :: rest) = .error (.unrecognized "list" rest) := by
  match rest with
  | [] => cases several
  | [category] => exact absurd several (Nat.lt_irrefl 1)
  | _ :: _ :: _ => rfl

theorem parse_categories_refused {rest : List String} (some : rest ≠ []) :
    parse ("categories" :: rest) = .error (.unrecognized "categories" rest) := by
  match rest with
  | [] => exact absurd rfl some
  | _ :: _ => rfl

/-- Every command that has arguments of its own is read back from them, whatever texts it holds.
Arguments make a command only if they are its own or if it is help and they ask for help, and all other
arguments come back as an error: a lookup of nothing, a name without or with several names, a list of
several categories, and categories with anything behind. -/
theorem arguments_read_exactly :
    (∀ command : Command, command.Renderable → parse command.render = .ok command) ∧
      (∀ args command, parse args = .ok command ↔
        command = .help ∧ AsksForHelp args ∨ command.Renderable ∧ command.render = args) ∧
      (∀ args, ¬ AsksForHelp args →
        (∀ command : Command, command.Renderable → command.render ≠ args) →
          ∃ word rest, args = word :: rest ∧ parse args = .error (refusal word rest)) ∧
      parse ["lookup"] = .error .noOpcode ∧
      (∀ rest : List String, rest.length ≠ 1 →
        parse ("name" :: rest) = .error (.unrecognized "name" rest)) ∧
      (∀ rest : List String, 1 < rest.length →
        parse ("list" :: rest) = .error (.unrecognized "list" rest)) ∧
      ∀ rest : List String, rest ≠ [] →
        parse ("categories" :: rest) = .error (.unrecognized "categories" rest) :=
  ⟨fun _ => parse_render, parse_eq_ok_iff, fun _ => parse_refused, rfl, fun _ => parse_name_refused,
    fun _ => parse_list_refused, fun _ => parse_categories_refused⟩

/-- Empty arguments, arguments that begin with a dash and words of commands, in places where they are
texts like any other; and a capital letter that makes a word unknown. -/
theorem words_of_commands_read_as_texts :
    parse ["lookup", "", "--help", "lookup"] = .ok (.lookup ["", "--help", "lookup"]) ∧
      parse ["name", "-h"] = .ok (.named "-h") ∧ parse ["list", ""] = .ok (.list (some "")) ∧
      parse ["-h", "name"] = .ok .help ∧
      parse ["Help"] = .error (.unrecognized "Help" []) ∧
      parse ["name"] = .error (.unrecognized "name" []) ∧
      parse ["list", "pen", ""] = .error (.unrecognized "list" ["pen", ""]) ∧
      parse ["categories", ""] = .error (.unrecognized "categories" [""]) := by
  obtain ⟨readBack, readIff, refused, _, name, list, categories⟩ := arguments_read_exactly
  have noHelp : ¬ AsksForHelp ["Help"] := by
    rintro (_ | ⟨known, _⟩)
    revert known
    decide
  have unrendered : ∀ command : Command, command.Renderable → command.render ≠ ["Help"] := by
    intro command _
    cases command with
    | list category => cases category <;> simp [render]
    | _ => simp [render]
  have unknown : parse ["Help"] = .error (.unrecognized "Help" []) := by
    obtain ⟨word, rest, split, failed⟩ := refused _ noHelp unrendered
    cases split
    exact failed
  refine ⟨readBack (.lookup _) ?_, readBack (.named _) ?_, readBack (.list (some _)) ?_,
    (readIff _ _).mpr (.inl ⟨rfl, .word (.inr (.inr rfl)) _⟩), unknown,
    name _ (by decide), list _ (by decide), categories _ (by decide)⟩
  all_goals exact ⟨nofun, nofun⟩

end Command

end OpcodeShapes
