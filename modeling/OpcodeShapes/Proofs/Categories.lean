import Mathlib.Data.List.Nodup
import OpcodeShapes.Proofs.Representation

/-!
# Categories

The category of a shape is its opcode up to the first underscore. The
categories of a registry are those of its shapes, each where it appears first,
and the shapes of one of them are told by their opcodes alone. So a text with
an underscore in it is the category of nothing, the empty text may be one, and
every shape stands in exactly one category.
-/

namespace OpcodeShapes

set_option autoImplicit false

/-- The opcode is the category, or the category with an underscore and anything behind it. -/
def Shape.FallsUnder (shape : Shape) (category : String) : Prop :=
  shape.opcode = category ∨ ∃ rest, shape.opcode = category ++ "_" ++ rest

theorem front_eq_iff (chars front : List Char) :
    chars.takeWhile (· ≠ '_') = front ↔
      '_' ∉ front ∧ (chars = front ∨ front ++ ['_'] <+: chars) := by
  -- Text and front lose their first character together, unless it is an underscore in the text: then
  -- the front has to be empty.
  induction chars generalizing front with
  | nil => cases front <;> simp
  | cons c rest ih =>
      by_cases cut : c = '_'
      · subst cut
        cases front with
        | nil => simp
        | cons first others =>
            simp only [List.takeWhile_cons, ne_eq, not_true_eq_false, decide_false,
              Bool.false_eq_true, if_false, List.cons_append, List.cons_prefix_cons,
              List.cons.injEq, List.mem_cons, not_or]
            constructor
            · intro absurdity
              cases absurdity
            · rintro ⟨⟨differs, _⟩, same | same⟩
              · exact absurd same.1 differs
              · exact absurd same.1.symm differs
      · rw [List.takeWhile_cons, if_pos (by simpa using cut)]
        cases front with
        | nil => simp [Ne.symm cut]
        | cons first others =>
            rw [List.cons.injEq, ih others]
            simp only [List.cons_append, List.cons_prefix_cons, List.cons.injEq, List.mem_cons,
              not_or]
            constructor
            · rintro ⟨rfl, whole, same | begins⟩
              · exact ⟨⟨Ne.symm cut, whole⟩, .inl ⟨rfl, same⟩⟩
              · exact ⟨⟨Ne.symm cut, whole⟩, .inr ⟨rfl, begins⟩⟩
            · rintro ⟨⟨_, whole⟩, ⟨rfl, same⟩ | ⟨rfl, begins⟩⟩
              · exact ⟨rfl, whole, .inl same⟩
              · exact ⟨rfl, whole, .inr begins⟩

theorem falls_under_iff (shape : Shape) (category : String) :
    shape.FallsUnder category ↔
      shape.opcode.toList = category.toList ∨
        category.toList ++ ['_'] <+: shape.opcode.toList := by
  unfold Shape.FallsUnder
  rw [String.toList_inj]
  apply or_congr_right
  constructor
  · rintro ⟨rest, same⟩
    exact ⟨rest.toList, by simp [same]⟩
  · rintro ⟨rest, same⟩
    refine ⟨String.ofList rest, ?_⟩
    rw [← String.toList_inj, ← same]
    simp

instance (shape : Shape) (category : String) : Decidable (shape.FallsUnder category) :=
  decidable_of_iff _ (falls_under_iff shape category).symm

theorem category_eq_iff (shape : Shape) (category : String) :
    shape.category = category ↔ '_' ∉ category.toList ∧ shape.FallsUnder category := by
  rw [falls_under_iff, ← front_eq_iff, Shape.category, ← String.toList_inj, String.toList_ofList]

theorem first_appearances_in_order (texts : List String) :
    (Registry.firstAppearances texts).Pairwise fun earlier later =>
      texts.idxOf earlier < texts.idxOf later := by
  induction texts with
  | nil => exact List.Pairwise.nil
  | cons head rest ih =>
      have apart {text : String}
          (member : text ∈ (Registry.firstAppearances rest).filter (· ≠ head)) : head ≠ text := by
        intro same
        simp [same] at member
      apply List.pairwise_cons.mpr
      constructor
      · intro later member
        rw [List.idxOf_cons_self, List.idxOf_cons_ne rest (apart member)]
        exact Nat.succ_pos _
      · apply (ih.filter _).imp_of_mem
        intro earlier later first second before
        rw [List.idxOf_cons_ne rest (apart first), List.idxOf_cons_ne rest (apart second)]
        exact Nat.succ_lt_succ before

/-- Puts the category of a shape behind those that were seen, if it is a new one. -/
def Registry.collect (seen : List String) (shape : Shape) : List String :=
  if shape.category ∈ seen then seen else seen ++ [shape.category]

/-- What a pass adds to the categories seen before it is, in the order of their first appearance,
whatever is not among these. -/
theorem collect_eq (shapes : List Shape) (seen : List String) :
    shapes.foldl Registry.collect seen =
      seen ++ (Registry.firstAppearances (shapes.map Shape.category)).filter (· ∉ seen) := by
  induction shapes generalizing seen with
  | nil => simp [Registry.firstAppearances]
  | cons shape rest ih =>
      rw [List.foldl_cons, ih, Registry.collect, List.map_cons, Registry.firstAppearances,
        List.filter_cons, List.filter_filter]
      by_cases known : shape.category ∈ seen
      · rw [if_pos known, if_neg (by simpa using known)]
        apply congrArg (seen ++ ·)
        apply List.filter_congr
        intro text _
        by_cases same : text = shape.category <;> simp [same, known]
      · rw [if_neg known, if_pos (by simpa using known), List.append_assoc, List.singleton_append]
        apply congrArg (seen ++ shape.category :: ·)
        apply List.filter_congr
        intro text _
        simp [not_or]

theorem grouped_perm {Item : Type} (keyOf : Item → String) {keys : List String}
    (distinct : keys.Nodup) {items : List Item} (covered : ∀ item ∈ items, keyOf item ∈ keys) :
    (keys.flatMap fun key => items.filter fun item => keyOf item = key).Perm items := by
  induction keys generalizing items with
  | nil =>
      have none : items = [] :=
        List.eq_nil_iff_forall_not_mem.mpr fun item member => List.not_mem_nil (covered item member)
      simp [none]
  | cons key rest ih =>
      have apart := List.nodup_cons.mp distinct
      let others := items.filter fun item => ¬ keyOf item = key
      have othersCovered : ∀ item ∈ others, keyOf item ∈ rest := by
        intro item member
        rcases List.mem_filter.mp member with ⟨listed, differs⟩
        have isOther : keyOf item ≠ key := by simpa using differs
        exact List.mem_of_ne_of_mem isOther (covered item listed)
      -- No group behind the first one loses an item when the first group is taken out.
      have kept : (rest.flatMap fun later => items.filter fun item => keyOf item = later) =
          rest.flatMap fun later => others.filter fun item => keyOf item = later := by
        apply List.flatMap_congr
        intro later member
        have isLater : later ≠ key := fun same => apart.1 (same ▸ member)
        rw [List.filter_filter]
        apply List.filter_congr
        intro item _
        by_cases same : keyOf item = later <;> simp [same, isLater]
      rw [List.flatMap_cons, kept]
      have group := (ih apart.2 othersCovered).append_left (items.filter fun item => keyOf item = key)
      refine group.trans ?_
      have split := List.filter_append_perm (fun item => decide (keyOf item = key)) items
      simpa only [others, decide_not] using split

namespace Registry

theorem mem_in_category_iff (registry : Registry) (category : String) (shape : Shape) :
    shape ∈ registry.inCategory category ↔ shape ∈ registry.shapes ∧ shape.category = category := by
  simp [inCategory]

theorem mem_categories_iff (registry : Registry) (category : String) :
    category ∈ registry.categories ↔ ∃ shape ∈ registry.shapes, shape.category = category := by
  rw [categories, mem_first_appearances, List.mem_map]

theorem categories_nodup (registry : Registry) : registry.categories.Nodup :=
  nodup_first_appearances _

theorem category_listed (registry : Registry) {shape : Shape} (member : shape ∈ registry.shapes) :
    shape.category ∈ registry.categories :=
  (registry.mem_categories_iff shape.category).mpr ⟨shape, member, rfl⟩

theorem in_category_ne_nil_iff (registry : Registry) (category : String) :
    registry.inCategory category ≠ [] ↔ category ∈ registry.categories := by
  rw [registry.mem_categories_iff, ← List.isEmpty_eq_false_iff, List.isEmpty_eq_false_iff_exists_mem]
  exact exists_congr fun shape => registry.mem_in_category_iff category shape

theorem in_category_disjoint (registry : Registry) {one other : String} (apart : one ≠ other) :
    (registry.inCategory one).Disjoint (registry.inCategory other) := by
  intro shape inOne inOther
  have ofOne := ((registry.mem_in_category_iff one shape).mp inOne).2
  have ofOther := ((registry.mem_in_category_iff other shape).mp inOther).2
  exact apart (ofOne.symm.trans ofOther)

theorem in_categories_perm (registry : Registry) :
    (registry.categories.flatMap registry.inCategory).Perm registry.shapes :=
  grouped_perm Shape.category registry.categories_nodup fun _ member => registry.category_listed member

theorem in_category_eq_filter (registry : Registry) {category : String}
    (whole : '_' ∉ category.toList) :
    registry.inCategory category = registry.shapes.filter fun shape => shape.FallsUnder category := by
  apply List.filter_congr
  intro shape _
  rw [decide_eq_decide, category_eq_iff]
  exact and_iff_right whole

theorem in_category_of_underscore (registry : Registry) {category : String}
    (cut : '_' ∈ category.toList) : registry.inCategory category = [] := by
  apply List.filter_eq_nil_iff.mpr
  intro shape _
  rw [decide_eq_true_eq, category_eq_iff]
  exact fun falls => falls.1 cut

theorem Sound.shapes_nodup {registry : Registry} (sound : registry.Sound) :
    registry.shapes.Nodup := by
  have distinct := sound.opcodes.keys_nodup
  have opcodes : Entry.opcodes registry.entries = registry.shapes.map Shape.opcode := by
    simp [Entry.opcodes, shapes]
  rw [opcodes] at distinct
  exact distinct.of_map Shape.opcode

end Registry

/-- The categories of a built registry are not repeated and stand in the order in which they appear
first among its shapes, as one pass over the shapes collects them. The shapes in the category of a
text are those that fall under it, in the order of the registry, or none if the text has an underscore
in it, and there are some exactly if the text is one of the categories. No two texts have a shape in
common, and in the categories together each shape of the registry stands once. -/
theorem categories_partition_registry {draft : Draft} (reachable : draft.Reachable)
    {registry : Registry} (built : draft.build = .ok registry) :
    (registry.categories.Nodup ∧
      (registry.categories.Pairwise fun earlier later =>
        (registry.shapes.map Shape.category).idxOf earlier <
          (registry.shapes.map Shape.category).idxOf later) ∧
      registry.categories = registry.shapes.foldl Registry.collect []) ∧
    (∀ category : String,
      ('_' ∉ category.toList → registry.inCategory category =
        registry.shapes.filter fun shape => shape.FallsUnder category) ∧
      ('_' ∈ category.toList → registry.inCategory category = []) ∧
      (registry.inCategory category ≠ [] ↔ category ∈ registry.categories)) ∧
    (∀ one other : String, one ≠ other →
      (registry.inCategory one).Disjoint (registry.inCategory other)) ∧
    (registry.categories.flatMap registry.inCategory).Perm registry.shapes ∧
    ∀ shape ∈ registry.shapes,
      (registry.categories.flatMap registry.inCategory).count shape = 1 := by
  have sound := (built_from built).sound reachable.sound
  have collected : registry.categories = registry.shapes.foldl Registry.collect [] := by
    rw [collect_eq, Registry.categories]
    simp
  have together := registry.in_categories_perm
  refine ⟨⟨registry.categories_nodup, first_appearances_in_order _, collected⟩, ?_,
    fun one other apart => registry.in_category_disjoint apart, together, ?_⟩
  · intro category
    exact ⟨registry.in_category_eq_filter, registry.in_category_of_underscore,
      registry.in_category_ne_nil_iff category⟩
  · intro shape member
    rw [together.count_eq]
    exact List.count_eq_one_of_mem sound.shapes_nodup member

/-- Four blocks: two of ink, one without a category of its own and one that is its own category. -/
def writingDesk : List Operation :=
  [.register "INKWELL" ⟨"ink_well", Flags.hatCap, by decide⟩,
   .register "DRAWER" ⟨"_drawer", Flags.none, by decide⟩,
   .register "INK" ⟨"ink", Flags.none, by decide⟩,
   .register "INKBLOT" ⟨"ink_blot_dry", Flags.none, by decide⟩,
   .designate "INKWELL"]

theorem writing_desk_partitioned :
    ∃ registry, (Draft.empty.after writingDesk).Reachable ∧
      (Draft.empty.after writingDesk).build = .ok registry ∧
      registry.categories = ["ink", ""] ∧
      registry.inCategory "ink_blot" = [] ∧
      (registry.inCategory "").map Shape.opcode = ["_drawer"] ∧
      (registry.inCategory "ink").map Shape.opcode = ["ink_well", "ink", "ink_blot_dry"] ∧
      ((registry.categories.flatMap registry.inCategory).map Shape.opcode).Perm
        (registry.shapes.map Shape.opcode) := by
  have reachable : (Draft.empty.after writingDesk).Reachable := ⟨writingDesk, rfl⟩
  have built : (Draft.empty.after writingDesk).build = .ok _ := rfl
  rcases categories_partition_registry reachable built with
    ⟨⟨_, _, collected⟩, told, _, together, _⟩
  refine ⟨_, reachable, built, ?_, (told "ink_blot").2.1 (by decide), ?_, ?_, together.map _⟩
  · rw [collected]
    decide
  · rw [(told "").1 (by decide)]
    decide
  · rw [(told "ink").1 (by decide)]
    decide

end OpcodeShapes
