import Mathlib.Data.List.Basic
import Mathlib.Data.List.Pairwise
import Mathlib.Tactic.Choose

/-!
# Lists that show what there is

A list that a walk puts together shows all things of a kind, in some form, one each and any two of
them in a relation, such as the order in which the walk comes to them. What the parts of a list show,
the whole shows, and leaving out repeated forms keeps the first of the things that have them.
-/

namespace Registry

variable {α β γ : Type} {render : γ → β} {apart : γ → γ → Prop} {P Q : γ → Prop} {xs : List β}

/-- A list shows all things of a kind, one each, any two of them in a relation. -/
def Shows (render : γ → β) (apart : γ → γ → Prop) (P : γ → Prop) (xs : List β) : Prop :=
  ∃ gs : List γ, xs = gs.map render ∧ gs.Pairwise apart ∧ ∀ g, g ∈ gs ↔ P g

lemma Shows.congr (h : Shows render apart P xs) (hPQ : ∀ g, P g ↔ Q g) :
    Shows render apart Q xs := by
  obtain ⟨gs, hxs, hapart, hmem⟩ := h
  exact ⟨gs, hxs, hapart, fun g => (hmem g).trans (hPQ g)⟩

lemma shows_nil (h : ∀ g, ¬P g) : Shows render apart P [] := ⟨[], rfl, .nil, by simpa using h⟩

lemma shows_singleton {g : γ} (h : ∀ g', P g' ↔ g' = g) : Shows render apart P [render g] :=
  ⟨[g], rfl, List.pairwise_singleton _ g, by simpa using fun g' => (h g').symm⟩

/-- What the parts of a list show, the whole shows. -/
lemma shows_flatMap {as : List α} {f : α → List β} {P : α → γ → Prop}
    (hf : ∀ a ∈ as, Shows render apart (P a) (f a))
    (happart : as.Pairwise fun a b => ∀ g g', P a g → P b g' → apart g g') :
    Shows render apart (fun g => ∃ a ∈ as, P a g) (as.flatMap f) := by
  choose! gs hxs hpairwise hmem using hf
  refine ⟨as.flatMap gs, ?_, ?_, ?_⟩
  · rw [List.map_flatMap]
    exact List.flatMap_congr hxs
  · rw [List.pairwise_flatMap]
    refine ⟨hpairwise, happart.imp_of_mem ?_⟩
    intro a b ha hb h g hg g' hg'
    exact h g g' ((hmem a ha g).1 hg) ((hmem b hb g').1 hg')
  · intro g
    rw [List.mem_flatMap]
    constructor
    · rintro ⟨a, ha, hg⟩
      exact ⟨a, ha, (hmem a ha g).1 hg⟩
    · rintro ⟨a, ha, hg⟩
      exact ⟨a, ha, (hmem a ha g).2 hg⟩

/-- What the items of a list show, with their positions, the whole shows, in the order of the items. -/
lemma shows_zipIdx {as : List α} {f : α × Nat → List β} {P : Nat → α → γ → Prop}
    (hf : ∀ i a, as[i]? = some a → Shows render apart (P i a) (f (a, i)))
    (happart : ∀ i j a b g g', i < j → P i a g → P j b g' → apart g g') :
    Shows render apart (fun g => ∃ i a, as[i]? = some a ∧ P i a g) (as.zipIdx.flatMap f) := by
  refine (shows_flatMap (P := fun e => P e.2 e.1) ?_ ?_).congr ?_
  · rintro ⟨a, i⟩ he
    exact hf i a (List.mk_mem_zipIdx_iff_getElem?.1 he)
  · have hsorted : (as.zipIdx.map Prod.snd).Pairwise (· < ·) := by
      rw [List.zipIdx_map_snd]
      exact List.pairwise_lt_range'
    refine (List.pairwise_map.1 hsorted).imp ?_
    intro e e' hlt g g' hg hg'
    exact happart e.2 e'.2 e.1 e'.1 g g' hlt hg hg'
  · intro g
    constructor
    · rintro ⟨⟨a, i⟩, he, hg⟩
      exact ⟨i, a, List.mk_mem_zipIdx_iff_getElem?.1 he, hg⟩
    · rintro ⟨i, a, hget, hg⟩
      exact ⟨(a, i), List.mk_mem_zipIdx_iff_getElem?.2 hget, hg⟩

/-- What a list shows it also shows under other names. -/
lemma Shows.rename {δ : Type} {render' : δ → β} {apart' : δ → δ → Prop} {name : γ → δ}
    (h : Shows render apart P xs) (hrender : ∀ g, render' (name g) = render g)
    (happart : ∀ g g', apart g g' → apart' (name g) (name g')) :
    Shows render' apart' (fun d => ∃ g, P g ∧ name g = d) xs := by
  obtain ⟨gs, rfl, hpairwise, hmem⟩ := h
  refine ⟨gs.map name, ?_, ?_, ?_⟩
  · simp [hrender, Function.comp_def]
  · rw [List.pairwise_map]
    exact hpairwise.imp (happart _ _)
  · intro d
    simp [hmem]

/-- The forms in a list are those of the things that it shows. -/
lemma Shows.mem_iff (h : Shows render apart P xs) {x : β} : x ∈ xs ↔ ∃ g, P g ∧ render g = x := by
  obtain ⟨gs, rfl, -, hmem⟩ := h
  simp only [List.mem_map, hmem]

lemma pairwise_eraseDups_map [BEq β] [LawfulBEq β] {gs : List γ} (h : gs.Pairwise apart) :
    (gs.map render).eraseDups.Pairwise fun x y =>
      ∃ g ∈ gs, render g = x ∧ ∀ g' ∈ gs, render g' = y → apart g g' := by
  induction hn : gs.length using Nat.strongRecOn generalizing gs with
  | ind n ih =>
    cases gs with
    | nil => exact List.Pairwise.nil
    | cons g gs =>
      obtain ⟨hg, hgs⟩ := List.pairwise_cons.1 h
      rw [List.map_cons, List.eraseDups_cons, List.filter_map, List.pairwise_cons]
      generalize hothers : gs.filter ((fun y => !y == render g) ∘ render) = others
      have hmem : ∀ g', g' ∈ others ↔ g' ∈ gs ∧ render g' ≠ render g := by simp [← hothers]
      have hne : ∀ y ∈ (others.map render).eraseDups, y ≠ render g := fun y hy => by
        obtain ⟨g', hg', rfl⟩ := List.mem_map.1 (List.mem_eraseDups.1 hy)
        exact ((hmem g').1 hg').2
      constructor
      · intro y hy
        refine ⟨g, List.mem_cons_self, rfl, ?_⟩
        rintro g' hg' rfl
        rcases List.mem_cons.1 hg' with rfl | hg'
        · exact absurd rfl (hne _ hy)
        · exact hg g' hg'
      · have hsub : others.Sublist gs := hothers ▸ List.filter_sublist
        have hlength : others.length < n := by
          have := hsub.length_le
          rw [List.length_cons] at hn
          omega
        refine (ih _ hlength (hgs.sublist hsub) rfl).imp_of_mem ?_
        rintro x y - hy ⟨first, hfirst, hx, hbefore⟩
        refine ⟨first, List.mem_cons_of_mem _ (hsub.mem hfirst), hx, ?_⟩
        rintro g' hg' rfl
        rcases List.mem_cons.1 hg' with rfl | hg'
        · exact absurd rfl (hne _ hy)
        · exact hbefore g' ((hmem g').2 ⟨hg', hne _ hy⟩) rfl

/-- Without its repetitions a list shows forms in the order of things: a form stands where the first
thing that has it was. -/
lemma Shows.pairwise_eraseDups [BEq β] [LawfulBEq β] (h : Shows render apart P xs) :
    xs.eraseDups.Pairwise fun x y =>
      ∃ g, P g ∧ render g = x ∧ ∀ g', P g' → render g' = y → apart g g' := by
  obtain ⟨gs, rfl, hapart, hmem⟩ := h
  simpa only [hmem] using pairwise_eraseDups_map hapart

end Registry
