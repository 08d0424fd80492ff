import OpcodeShapes.Proofs.Verdict
import OpcodeShapes.Registry.Shared

/-!
# The shared registry is set once

Whatever calls a process makes on its cell, the first of them sets it, for an
installation puts its argument there and a use the built-in registry, and no
call behind it changes what is there. So only the first call can install
anything, every later installation gets its argument back, and all uses are
told the same registry. The first use never fails, because the built-in
catalogue can be built.
-/

namespace OpcodeShapes

set_option autoImplicit false

inductive SharedCall where
  | install (registry : Registry)
  | current

inductive SharedReply where
  | installed
  | handedBack (registry : Registry)
  | told (registry : Registry)
  /-- The built-in registry was wanted and there is none. -/
  | failed (reason : RegistryError)

namespace SharedRegistry

def call (shared : SharedRegistry) : SharedCall → SharedReply × SharedRegistry
  | .install registry =>
    match outcome (install registry) shared with
    | (.ok (), after) => (.installed, after)
    | (.error returned, after) => (.handedBack returned, after)
  | .current =>
    match outcome current shared with
    | (.ok registry, after) => (.told registry, after)
    | (.error reason, after) => (.failed reason, after)

def replies (shared : SharedRegistry) : List SharedCall → List SharedReply
  | [] => []
  | first :: rest =>
    let (reply, after) := shared.call first
    reply :: after.replies rest

end SharedRegistry

def SharedCall.replyBehind (held : Registry) : SharedCall → SharedReply
  | .install registry => .handedBack registry
  | .current => .told held

def SharedCall.brings (builtin : Registry) : SharedCall → Registry
  | .install registry => registry
  | .current => builtin

def SharedCall.replyFirst (builtin : Registry) : SharedCall → SharedReply
  | .install _ => .installed
  | .current => .told builtin

/-- Only the first of some calls sets anything. -/
structure SetOnce (builtin : Registry) (calls : List SharedCall) (replies : List SharedReply) :
    Prop where
  answered : replies.length = calls.length
  installed_iff : ∀ place, replies[place]? = some SharedReply.installed ↔
    place = 0 ∧ ∃ registry, calls[0]? = some (SharedCall.install registry)
  later_handed_back : ∀ place registry, 0 < place →
    calls[place]? = some (SharedCall.install registry) →
      replies[place]? = some (SharedReply.handedBack registry)
  one_told : ∃ shown : Registry,
    (∀ place : Nat, calls[place]? = some SharedCall.current →
      replies[place]? = some (SharedReply.told shown)) ∧
      ((∃ place : Nat, calls[place]? = some (SharedCall.install shown) ∧
          replies[place]? = some SharedReply.installed) ∨
        (∀ place : Nat, replies[place]? ≠ some SharedReply.installed) ∧ shown = builtin)
  never_fails : ∀ reason, SharedReply.failed reason ∉ replies

namespace SharedRegistry

theorem call_held (held : Registry) (call : SharedCall) :
    SharedRegistry.call ⟨some held⟩ call = (call.replyBehind held, ⟨some held⟩) := by
  cases call <;> rfl

theorem call_empty {builtin : Registry} (built : Catalogue.registry = .ok builtin)
    (call : SharedCall) :
    SharedRegistry.call {} call = (call.replyFirst builtin, ⟨some (call.brings builtin)⟩) := by
  cases call with
  | install registry => rfl
  | current =>
      have used : outcome current {} = (.ok builtin, ⟨some builtin⟩) := by
        unfold current
        generalize Catalogue.registry = result at built ⊢
        subst built
        rfl
      rw [SharedRegistry.call, used]
      rfl

theorem replies_held (held : Registry) (calls : List SharedCall) :
    SharedRegistry.replies ⟨some held⟩ calls = calls.map (SharedCall.replyBehind held) := by
  induction calls with
  | nil => rfl
  | cons first rest ih =>
      rw [replies, call_held, List.map_cons]
      exact congrArg _ ih

theorem replies_empty {builtin : Registry} (built : Catalogue.registry = .ok builtin)
    (first : SharedCall) (rest : List SharedCall) :
    SharedRegistry.replies {} (first :: rest) =
      first.replyFirst builtin :: rest.map (SharedCall.replyBehind (first.brings builtin)) := by
  rw [replies, call_empty built]
  exact congrArg _ (replies_held _ rest)

end SharedRegistry

theorem reply_behind_ne_installed (held : Registry) (call : SharedCall) :
    call.replyBehind held ≠ .installed := by
  cases call <;> nofun

theorem reply_behind_ne_failed (held : Registry) (call : SharedCall) (reason : RegistryError) :
    call.replyBehind held ≠ .failed reason := by
  cases call <;> nofun

theorem set_once_nothing (builtin : Registry) : SetOnce builtin [] [] where
  answered := rfl
  installed_iff place := by simp
  later_handed_back place registry _ called := by simp at called
  one_told := ⟨builtin, by simp, .inr ⟨by simp, rfl⟩⟩
  never_fails reason := List.not_mem_nil

theorem reply_later (held : Registry) (reply : SharedReply) (first : SharedCall)
    (rest : List SharedCall) {place : Nat} (behind : 0 < place) :
    (reply :: rest.map (SharedCall.replyBehind held))[place]? =
      ((first :: rest)[place]?).map (SharedCall.replyBehind held) := by
  cases place with
  | zero => cases behind
  | succ later => rw [List.getElem?_cons_succ, List.getElem?_cons_succ, List.getElem?_map]

theorem set_once_first (builtin : Registry) (first : SharedCall) (rest : List SharedCall) :
    SetOnce builtin (first :: rest)
      (first.replyFirst builtin :: rest.map (SharedCall.replyBehind (first.brings builtin))) where
  answered := by rw [List.length_cons, List.length_cons, List.length_map]
  installed_iff place := by
    cases place with
    | zero => cases first <;> simp [SharedCall.replyFirst]
    | succ later => simp [reply_behind_ne_installed]
  later_handed_back place registry behind called := by
    rw [reply_later _ _ first rest behind, called]
    rfl
  one_told := by
    refine ⟨first.brings builtin, ?_, ?_⟩
    · intro place called
      rcases Nat.eq_zero_or_pos place with rfl | behind
      · obtain rfl : first = .current := Option.some.inj called
        rfl
      · rw [reply_later _ _ first rest behind, called]
        rfl
    · cases first with
      | install registry => exact .inl ⟨0, rfl, rfl⟩
      | current =>
          refine .inr ⟨?_, rfl⟩
          intro place
          cases place with
          | zero => simp [SharedCall.replyFirst]
          | succ later => simp [reply_behind_ne_installed]
  never_fails reason := by
    cases first <;> simp [SharedCall.replyFirst, reply_behind_ne_failed]

/-- The built-in catalogue makes a registry, and in whatever order a process installs registries and
uses the shared one, only its first call sets anything. An installation succeeds if it is that call
and gets its argument back otherwise; all uses are told one registry, which is the one that was
installed or, if none was, the built-in one; and no use fails. -/
theorem shared_registry_set_once :
    ∃ builtin, Catalogue.registry = .ok builtin ∧
      ∀ calls, SetOnce builtin calls (SharedRegistry.replies {} calls) := by
  obtain ⟨builtin, built⟩ := Catalogue.builds
  refine ⟨builtin, built, ?_⟩
  intro calls
  cases calls with
  | nil => exact set_once_nothing builtin
  | cons first rest =>
      rw [SharedRegistry.replies_empty built]
      exact set_once_first builtin first rest

end OpcodeShapes
