/-
  `RoundTrip` — codecs read back what they write.

  `Codec.Lawful` is what a codec has to do for its texts to be read back, stated on trees: it writes
  numbers of at most 64 bits only, and it reads the tree of what it writes. Since the levels of
  nesting are limited, the law counts how many a codec needs. Here the law is shown for values
  without members; objects, where members may be left out, have a law of their own (`Abridging`).

  `Codec.Lawful.ofText_render` is the result: whatever the layout, the text of a value is read back.
  Hence a lawful codec round-trips (`Codec.Lawful.roundTrips`): its texts tell values apart, and a
  text that is accepted, however it is laid out, settles after it has been written once.
-/
import Mathlib.Data.List.Forall2
import SchemaSurvey.Json.Enumeration
import SchemaSurvey.Proofs.Json.Writing

namespace SchemaSurvey.Json

/-- Whoever may enter more than one level may enter one. -/
theorem Tree.enter_of_lt {height depth : Nat} (h : height + 1 < depth) :
    ∃ inner, Tree.enter depth = .ok inner ∧ height < inner := by
  obtain ⟨d, rfl⟩ : ∃ d, depth = d + 2 := ⟨depth - 2, by omega⟩
  exact ⟨d + 1, rfl, by omega⟩

/-- A codec that reads what it writes wherever `height` levels of nesting are allowed. -/
structure Codec.Lawful {α : Type} (c : Codec α) (height : Nat) : Prop where
  fits : ∀ a, (c.write a).Fits
  read_tree : ∀ a depth, height < depth → c.read depth (c.write a).tree = .ok a

namespace Codec

variable {α β : Type} {c : Codec α} {height : Nat}

theorem Lawful.mono (h : c.Lawful height) {height' : Nat} (hle : height ≤ height') :
    c.Lawful height' where
  fits := h.fits
  read_tree a depth hdepth := h.read_tree a depth (Nat.lt_of_le_of_lt hle hdepth)

section

variable {l : Layout} (hl : l.Blank) {blanks : String}
  (hblanks : ∀ c ∈ blanks.toList, Token.isBlank c = true)

include hl hblanks

/-- A written value is read in any layout, also with white space at its end. -/
theorem ofText_render {v : Json} (hv : v.Fits) :
    c.ofText (v.render l ++ blanks) = c.read maxDepth v.tree := by
  rw [ofText, Json.ofText_render hl hv hblanks]
  show (c.read maxDepth v.tree >>= fun a => .ok a) = _
  cases c.read maxDepth v.tree <;> rfl

/-- **The text of a value is read back.** -/
theorem Lawful.ofText_render (h : c.Lawful height) (hheight : height < maxDepth) (a : α) :
    c.ofText ((c.write a).render l ++ blanks) = .ok a := by
  rw [Codec.ofText_render hl hblanks (h.fits a), h.read_tree a maxDepth hheight]

end

/-! ### Round trips -/

/-- The texts of a value that are stored: compact or indented, also with a line end. -/
def IsText (c : Codec α) (a : α) (t : String) : Prop :=
  ∃ lineEnd ∈ ["", "\n"], t = c.compact a ++ lineEnd ∨ t = c.pretty a ++ lineEnd

/-- **What a reader may rely on.** A text of a value is read back as that value, so texts tell
values apart; and whatever text is accepted, what was read from it can be written and read again
without a change in the value or in its text. -/
structure RoundTrips (c : Codec α) : Prop where
  read_text : ∀ a t, c.IsText a t → c.ofText t = .ok a
  eq_of_text : ∀ a b t, c.IsText a t → c.IsText b t → a = b
  reread : ∀ t a, c.ofText t = .ok a → ∀ u, c.IsText a u →
    c.ofText u = c.ofText t ∧ (c.ofText u).map c.compact = .ok (c.compact a) ∧
      (c.ofText u).map c.pretty = .ok (c.pretty a)

theorem blank_lineEnd {lineEnd : String} (h : lineEnd ∈ ["", "\n"]) :
    ∀ c ∈ lineEnd.toList, Token.isBlank c = true := by
  simp only [List.mem_cons, List.not_mem_nil, or_false] at h
  rcases h with rfl | rfl
  · exact fun c hc => absurd hc List.not_mem_nil
  · intro c hc
    obtain rfl : c = '\n' := List.mem_singleton.mp hc
    rfl

theorem Lawful.ofText_of_isText (h : c.Lawful height) (hheight : height < maxDepth) {a : α}
    {t : String} (ht : c.IsText a t) : c.ofText t = .ok a := by
  obtain ⟨lineEnd, hmem, rfl | rfl⟩ := ht
  · exact h.ofText_render Layout.blank_compact (blank_lineEnd hmem) hheight a
  · exact h.ofText_render Layout.blank_pretty (blank_lineEnd hmem) hheight a

theorem Lawful.roundTrips (h : c.Lawful height) (hheight : height < maxDepth) : c.RoundTrips where
  read_text _ _ ht := h.ofText_of_isText hheight ht
  eq_of_text a b t ha hb := by
    have hread := h.ofText_of_isText hheight ha
    rw [h.ofText_of_isText hheight hb] at hread
    exact (Except.ok.inj hread).symm
  reread t a ht u hu := by
    rw [ht, h.ofText_of_isText hheight hu]
    exact ⟨rfl, rfl, rfl⟩

/-! ### Values without parts -/

theorem lawful_string : string.Lawful 0 := ⟨fun _ => trivial, fun _ _ _ => rfl⟩

theorem lawful_unsigned {bits : Nat} (hbits : bits ≤ 64) : (unsigned bits).Lawful 0 where
  fits n := by
    have hpow : Nat.pow 2 bits ≤ 2 ^ 64 := Nat.pow_le_pow_right (by decide) hbits
    exact Nat.lt_of_lt_of_le n.isLt hpow
  read_tree n depth _ := by
    have hn : 0 ≤ (n.val : Int) ∧ (n.val : Int).toNat < Nat.pow 2 bits :=
      ⟨Int.natCast_nonneg _, n.isLt⟩
    simp only [unsigned, tree, Reading.clear]
    show (if h : 0 ≤ (n.val : Int) ∧ (n.val : Int).toNat < Nat.pow 2 bits then
      Except.ok (⟨(n.val : Int).toNat, h.2⟩ : Fin (Nat.pow 2 bits)) else _) = _
    rw [dif_pos hn]
    rfl

theorem lawful_enumeration {e : Enumeration α} (h : ∀ a, e.ofName (e.name a) = .ok a) :
    e.codec.Lawful 0 := ⟨fun _ => trivial, fun a _ _ => h a⟩

/-! ### Values made of values -/

theorem Lawful.map (h : c.Lawful height) {into : β → α} {of : α → β} (hof : ∀ b, of (into b) = b) :
    (c.map into of).Lawful height where
  fits b := h.fits (into b)
  read_tree b depth hdepth := by
    show (c.read depth (c.write (into b)).tree).map of = .ok b
    rw [h.read_tree _ _ hdepth]
    show Except.ok (of (into b)) = _
    rw [hof]

/-- Only null has the tree of null. -/
theorem eq_null_of_tree {v : Json} (h : v.tree = .scalar .null) : v = .null := by
  cases v <;> cases h
  rfl

theorem read_optional {depth : Nat} {t : Tree} (ht : t ≠ .scalar .null) :
    c.optional.read depth t = (c.read depth t).map some := by
  unfold Codec.optional
  cases t with
  | scalar s =>
    cases s with
    | null => exact absurd rfl ht
    | _ => rfl
  | _ => rfl

theorem Lawful.optional (h : c.Lawful height) (hnull : ∀ a, c.write a ≠ .null) :
    c.optional.Lawful height where
  fits
    | none => trivial
    | some a => h.fits a
  read_tree
    | none, _, _ => rfl
    | some a, depth, hdepth => by
      have htree : (c.write a).tree ≠ .scalar .null := fun heq => hnull a (eq_null_of_tree heq)
      show c.optional.read depth (c.write a).tree = _
      rw [read_optional htree, h.read_tree a depth hdepth]
      rfl

theorem mapM_of_forall₂ {depth : Nat} {ts : List Tree} {as : List α}
    (h : List.Forall₂ (fun t a => c.read depth t = .ok a) ts as) :
    ts.mapM (c.read depth) = .ok as := by
  induction h with
  | nil => rfl
  | cons ht _ ih =>
    rw [List.mapM_cons, ht, ih]
    rfl

theorem Lawful.list (h : c.Lawful height) : c.list.Lawful (height + 1) where
  fits as := by
    refine itemsFit_iff.mpr fun v hv => ?_
    obtain ⟨a, -, rfl⟩ := List.mem_map.mp hv
    exact h.fits a
  read_tree as depth hdepth := by
    obtain ⟨inner, henter, hinner⟩ := Tree.enter_of_lt hdepth
    have hitems : (trees (as.map c.write)).mapM (c.read inner) = .ok as := by
      apply mapM_of_forall₂
      rw [trees_eq_map, List.map_map, List.forall₂_map_left_iff, List.forall₂_same]
      intro a _
      exact h.read_tree a inner hinner
    show (Tree.enter depth >>= fun inner => (trees (as.map c.write)).mapM (c.read inner) >>= _) = _
    rw [henter]
    show ((trees (as.map c.write)).mapM (c.read inner) >>= _) = _
    rw [hitems]
    rfl

end Codec

end SchemaSurvey.Json
