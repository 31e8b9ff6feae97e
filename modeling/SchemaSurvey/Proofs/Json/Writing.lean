/-
  `Writing` — a written value is read back as its tree.

  The way from a value to the tree that is read from its text goes over the tokens: the text of a
  value, in any layout of white space, has the tokens `Json.tokens` (`all_write`), and from them the
  builder makes the tree `Json.tree` (`foldl_tokens`). So the tree of a text does not depend on its
  layout (`ofText_render`), and readers need only be compared with trees.

  Both steps go along the writer, which puts a value in front of what follows. What follows a value
  is free as long as it does not go on with a number.
-/
import SchemaSurvey.Json.Tree
import SchemaSurvey.Proofs.Json.Lexing

namespace SchemaSurvey

open Json

namespace Json

/-! ### Tokens and trees of values -/

mutual

/-- Every number in a value fits into 64 bits. -/
def Fits : Json → Prop
  | null | string _ => True
  | natural n => n < 2 ^ 64
  | array items => ItemsFit items
  | object members => MembersFit members

/-- Every number in some items fits into 64 bits. -/
def ItemsFit : List Json → Prop
  | [] => True
  | v :: vs => v.Fits ∧ ItemsFit vs

/-- Every number in some members fits into 64 bits. -/
def MembersFit : List (String × Json) → Prop
  | [] => True
  | (_, v) :: ms => v.Fits ∧ MembersFit ms

end

mutual

/-- The tokens of a value, before `rest`. -/
def tokens : Json → List Token → List Token
  | null, rest => .scalar .null :: rest
  | natural n, rest => .scalar (.number (.clear (.integer n))) :: rest
  | string s, rest => .scalar (.string (.clear s)) :: rest
  | array [], rest => .openArray :: .closeArray :: rest
  | array (v :: vs), rest => .openArray :: v.tokens (itemTokens vs (.closeArray :: rest))
  | object [], rest => .openObject :: .closeObject :: rest
  | object ((k, v) :: ms), rest =>
    .openObject :: .scalar (.string (.clear k)) :: .colon ::
      v.tokens (memberTokens ms (.closeObject :: rest))

/-- The tokens of the items after the first. -/
def itemTokens : List Json → List Token → List Token
  | [], rest => rest
  | v :: vs, rest => .comma :: v.tokens (itemTokens vs rest)

/-- The tokens of the members after the first. -/
def memberTokens : List (String × Json) → List Token → List Token
  | [], rest => rest
  | (k, v) :: ms, rest =>
    .comma :: .scalar (.string (.clear k)) :: .colon :: v.tokens (memberTokens ms rest)

end

mutual

/-- The tree of a value. -/
def tree : Json → Tree
  | null => .scalar .null
  | natural n => .scalar (.number (.clear (.integer n)))
  | string s => .scalar (.string (.clear s))
  | array items => .array (trees items) .closed
  | object members => .object (memberTrees members) .closed

/-- The trees of some items. -/
def trees : List Json → List Tree
  | [] => []
  | v :: vs => v.tree :: trees vs

/-- The trees of some members. -/
def memberTrees : List (String × Json) → List Member
  | [] => []
  | (k, v) :: ms => (.clear k, v.tree) :: memberTrees ms

end

theorem itemsFit_iff {vs : List Json} : ItemsFit vs ↔ ∀ v ∈ vs, v.Fits := by
  induction vs with
  | nil => simp [ItemsFit]
  | cons v vs ih => simp [ItemsFit, ih]

theorem membersFit_iff {ms : List (String × Json)} : MembersFit ms ↔ ∀ m ∈ ms, m.2.Fits := by
  induction ms with
  | nil => simp [MembersFit]
  | cons m ms ih => simp [MembersFit, ih]

theorem trees_eq_map (vs : List Json) : trees vs = vs.map tree := by
  induction vs with
  | nil => rfl
  | cons v vs ih => rw [trees, ih, List.map_cons]

theorem memberTrees_eq_map (ms : List (String × Json)) :
    memberTrees ms = ms.map fun m => (.clear m.1, m.2.tree) := by
  induction ms with
  | nil => rfl
  | cons m ms ih => rw [memberTrees, ih, List.map_cons]

/-! ### From text to tokens -/

/-- Only white space stands between tokens. -/
structure Layout.Blank (l : Layout) : Prop where
  gap : ∀ depth, ∀ c ∈ l.gap depth, Token.isBlank c = true
  afterColon : ∀ c ∈ l.afterColon, Token.isBlank c = true

theorem Layout.blank_compact : Layout.compact.Blank := ⟨fun _ => nofun, nofun⟩

theorem Layout.blank_pretty : Layout.pretty.Blank where
  gap depth c hc := by
    rcases List.mem_cons.mp hc with rfl | hc
    · decide
    · rw [List.eq_of_mem_replicate hc]
      decide
  afterColon c hc := by
    rw [List.mem_singleton.mp hc]
    decide

/-- A number ends where white space and then something else follows. -/
theorem Numeral.ends_blanks_append {blanks rest : List Char}
    (h : ∀ c ∈ blanks, Token.isBlank c = true) (hrest : Ends rest) : Ends (blanks ++ rest) := by
  cases blanks with
  | nil => exact hrest
  | cons c blanks =>
    have hc := h c List.mem_cons_self
    simp only [Token.isBlank, Bool.or_eq_true, beq_iff_eq] at hc
    refine ends_cons ?_
    rcases hc with ((rfl | rfl) | rfl) | rfl <;> decide

variable {l : Layout}

theorem ends_writeItems {depth : Nat} {vs : List Json} {rest : List Char}
    (hrest : Numeral.Ends rest) : Numeral.Ends (writeItems l depth vs rest) := by
  cases vs with
  | nil => exact hrest
  | cons v vs => exact Numeral.ends_cons (by decide)

theorem ends_writeMembers {depth : Nat} {ms : List (String × Json)} {rest : List Char}
    (hrest : Numeral.Ends rest) : Numeral.Ends (writeMembers l depth ms rest) := by
  cases ms with
  | nil => exact hrest
  | cons m ms => exact Numeral.ends_cons (by decide)

theorem ends_closing (hl : l.Blank) (depth : Nat) {c : Char} (rest : List Char)
    (hc : c.isDigit = false ∧ c ≠ '.' ∧ c ≠ 'e' ∧ c ≠ 'E') :
    Numeral.Ends (l.gap depth ++ c :: rest) :=
  Numeral.ends_blanks_append (hl.gap depth) (Numeral.ends_cons hc)

mutual

/-- **A written value has its tokens.** -/
theorem all_write (hl : l.Blank) : ∀ (v : Json) (depth : Nat) {rest : List Char}, v.Fits →
    Numeral.Ends rest → Token.all (v.write l depth rest) = v.tokens (Token.all rest)
  | null, _, rest, _, _ => Token.all_null rest
  | natural _, _, _, hv, hrest => Token.all_toDigits hv hrest
  | string s, _, rest, _, _ => Token.all_quote s rest
  | array [], _, rest, _, _ => by
    rw [write, tokens, Token.all_punctuation (by decide) rfl,
      Token.all_punctuation (by decide) rfl]
  | array (v :: vs), depth, rest, ⟨hv, hvs⟩, _ => by
    have hclosing := ends_closing hl depth (c := ']') rest (by decide)
    rw [write, tokens, Token.all_punctuation (by decide) rfl, Token.all_blanks_append (hl.gap _),
      all_write hl v _ hv (ends_writeItems hclosing), all_writeItems hl vs _ hvs hclosing,
      Token.all_blanks_append (hl.gap _), Token.all_punctuation (by decide) rfl]
  | object [], _, rest, _, _ => by
    rw [write, tokens, Token.all_punctuation (by decide) rfl,
      Token.all_punctuation (by decide) rfl]
  | object ((k, v) :: ms), depth, rest, ⟨hv, hms⟩, _ => by
    have hclosing := ends_closing hl depth (c := '\x7d') rest (by decide)
    rw [write, tokens, Token.all_punctuation (by decide) rfl, Token.all_blanks_append (hl.gap _),
      Token.all_quote, Token.all_punctuation (by decide) rfl,
      Token.all_blanks_append hl.afterColon, all_write hl v _ hv (ends_writeMembers hclosing),
      all_writeMembers hl ms _ hms hclosing, Token.all_blanks_append (hl.gap _),
      Token.all_punctuation (by decide) rfl]

theorem all_writeItems (hl : l.Blank) : ∀ (vs : List Json) (depth : Nat) {rest : List Char},
    ItemsFit vs → Numeral.Ends rest →
      Token.all (writeItems l depth vs rest) = itemTokens vs (Token.all rest)
  | [], _, _, _, _ => rfl
  | v :: vs, depth, rest, ⟨hv, hvs⟩, hrest => by
    rw [writeItems, itemTokens, Token.all_punctuation (by decide) rfl,
      Token.all_blanks_append (hl.gap _), all_write hl v _ hv (ends_writeItems hrest),
      all_writeItems hl vs _ hvs hrest]

theorem all_writeMembers (hl : l.Blank) :
    ∀ (ms : List (String × Json)) (depth : Nat) {rest : List Char},
      MembersFit ms → Numeral.Ends rest →
        Token.all (writeMembers l depth ms rest) = memberTokens ms (Token.all rest)
  | [], _, _, _, _ => rfl
  | (k, v) :: ms, depth, rest, ⟨hv, hms⟩, hrest => by
    rw [writeMembers, memberTokens, Token.all_punctuation (by decide) rfl,
      Token.all_blanks_append (hl.gap _), Token.all_quote, Token.all_punctuation (by decide) rfl,
      Token.all_blanks_append hl.afterColon, all_write hl v _ hv (ends_writeMembers hrest),
      all_writeMembers hl ms _ hms hrest]

end

/-! ### From tokens to the tree -/

open SchemaSurvey.Json.Tree

variable {frames : List Frame}

/-- The first token of a value does not close an array. -/
theorem exists_tokens_eq_cons (v : Json) (rest : List Token) :
    ∃ t ts, v.tokens rest = t :: ts ∧ t ≠ .closeArray := by
  cases v with
  | null => exact ⟨_, _, rfl, nofun⟩
  | natural n => exact ⟨_, _, rfl, nofun⟩
  | string s => exact ⟨_, _, rfl, nofun⟩
  | array items =>
    refine ⟨.openArray, ?_⟩
    cases items with
    | nil => exact ⟨_, by rw [tokens], nofun⟩
    | cons v vs => exact ⟨_, by rw [tokens], nofun⟩
  | object members =>
    refine ⟨.openObject, ?_⟩
    cases members with
    | nil => exact ⟨_, by rw [tokens], nofun⟩
    | cons m ms => exact ⟨_, by rw [tokens], nofun⟩

theorem take_firstItem {t : Token} (ht : t ≠ .closeArray) :
    take frames .firstItem t = take (.item [] :: frames) .value t := by
  cases t <;> first | rfl | exact absurd rfl ht

theorem take_nextItem {t : Token} (ht : t ≠ .closeArray) (done : List Tree) :
    take frames (.nextItem done) t = take (.item done :: frames) .value t := by
  cases t <;> first | rfl | exact absurd rfl ht

/-- A value that is due as the first item of an array is built inside that array. -/
theorem foldl_tokens_firstItem (v : Json) (rest : List Token) :
    (v.tokens rest).foldl step (.building .firstItem frames) =
      (v.tokens rest).foldl step (.building .value (.item [] :: frames)) := by
  obtain ⟨t, ts, htokens, ht⟩ := exists_tokens_eq_cons v rest
  rw [htokens, List.foldl_cons, List.foldl_cons, step, step, take_firstItem ht]

/-- A value that is due after a comma is built inside the array, too. -/
theorem foldl_tokens_nextItem (v : Json) (rest : List Token) (done : List Tree) :
    (v.tokens rest).foldl step (.building (.nextItem done) frames) =
      (v.tokens rest).foldl step (.building .value (.item done :: frames)) := by
  obtain ⟨t, ts, htokens, ht⟩ := exists_tokens_eq_cons v rest
  rw [htokens, List.foldl_cons, List.foldl_cons, step, step, take_nextItem ht]

mutual

/-- **The builder delivers the tree of a value,** whatever is around it and whatever follows. -/
theorem foldl_tokens : ∀ (v : Json) (frames : List Frame) (rest : List Token),
    (v.tokens rest).foldl step (.building .value frames) = rest.foldl step (deliver v.tree frames)
  | null, _, _ => rfl
  | natural _, _, _ => rfl
  | string _, _, _ => rfl
  | array [], _, _ => by
    rw [tokens]
    rfl
  | array (v :: vs), frames, rest => by
    rw [tokens, List.foldl_cons]
    show (v.tokens (itemTokens vs (.closeArray :: rest))).foldl step
      (.building .firstItem frames) = _
    rw [foldl_tokens_firstItem, foldl_tokens v, deliver, foldl_itemTokens vs, List.foldl_cons]
    show rest.foldl step
      (deliver (.array ((trees vs).reverse ++ [v.tree]).reverse .closed) frames) = _
    rw [List.reverse_append, List.reverse_reverse, tree, trees]
    rfl
  | object [], _, _ => by
    rw [tokens]
    rfl
  | object ((k, v) :: ms), frames, rest => by
    rw [tokens, List.foldl_cons, List.foldl_cons, List.foldl_cons]
    show (v.tokens (memberTokens ms (.closeObject :: rest))).foldl step
      (.building .value (.member [] (.clear k) :: frames)) = _
    rw [foldl_tokens v, deliver, foldl_memberTokens ms, List.foldl_cons]
    show rest.foldl step (deliver
      (.object ((memberTrees ms).reverse ++ [(Reading.clear k, v.tree)]).reverse .closed)
        frames) = _
    rw [List.reverse_append, List.reverse_reverse, tree, memberTrees]
    rfl

theorem foldl_itemTokens : ∀ (vs : List Json) (done : List Tree) (frames : List Frame)
    (rest : List Token),
    (itemTokens vs rest).foldl step (.building (.itemEnd done) frames) =
      rest.foldl step (.building (.itemEnd ((trees vs).reverse ++ done)) frames)
  | [], _, _, _ => rfl
  | v :: vs, done, frames, rest => by
    rw [itemTokens, List.foldl_cons]
    show (v.tokens (itemTokens vs rest)).foldl step (.building (.nextItem done) frames) = _
    rw [foldl_tokens_nextItem, foldl_tokens v, deliver, foldl_itemTokens vs, trees,
      List.reverse_cons, List.append_assoc]
    rfl

theorem foldl_memberTokens : ∀ (ms : List (String × Json)) (done : List Member)
    (frames : List Frame) (rest : List Token),
    (memberTokens ms rest).foldl step (.building (.memberEnd done) frames) =
      rest.foldl step (.building (.memberEnd ((memberTrees ms).reverse ++ done)) frames)
  | [], _, _, _ => rfl
  | (k, v) :: ms, done, frames, rest => by
    rw [memberTokens, List.foldl_cons, List.foldl_cons, List.foldl_cons]
    show (v.tokens (memberTokens ms rest)).foldl step
      (.building .value (.member done (.clear k) :: frames)) = _
    rw [foldl_tokens v, deliver, foldl_memberTokens ms, memberTrees, List.reverse_cons,
      List.append_assoc]
    rfl

end

/-! ### From text to the tree -/

mutual

/-- What is written before `rest` does not depend on it. -/
theorem write_append (s : List Char) : ∀ (v : Json) (depth : Nat) (rest : List Char),
    v.write l depth rest ++ s = v.write l depth (rest ++ s)
  | null, _, _ => rfl
  | natural _, _, _ => by rw [write, write, List.append_assoc]
  | string _, _, _ => by simp only [write, quote, List.cons_append, List.append_assoc]
  | array [], _, _ => by simp only [write, List.cons_append]
  | array (v :: vs), depth, rest => by
    simp only [write, List.cons_append, List.append_assoc, write_append s v,
      writeItems_append s vs]
  | object [], _, _ => by simp only [write, List.cons_append]
  | object ((k, v) :: ms), depth, rest => by
    simp only [write, quote, List.cons_append, List.append_assoc, write_append s v,
      writeMembers_append s ms]

theorem writeItems_append (s : List Char) : ∀ (vs : List Json) (depth : Nat) (rest : List Char),
    writeItems l depth vs rest ++ s = writeItems l depth vs (rest ++ s)
  | [], _, _ => rfl
  | v :: vs, depth, rest => by
    simp only [writeItems, List.cons_append, List.append_assoc, write_append s v,
      writeItems_append s vs]

theorem writeMembers_append (s : List Char) :
    ∀ (ms : List (String × Json)) (depth : Nat) (rest : List Char),
      writeMembers l depth ms rest ++ s = writeMembers l depth ms (rest ++ s)
  | [], _, _ => rfl
  | (k, v) :: ms, depth, rest => by
    simp only [writeMembers, quote, List.cons_append, List.append_assoc, write_append s v,
      writeMembers_append s ms]

end

/-- **The text of a value has its tree,** in any layout, and nothing follows it but the white space
that is appended. -/
theorem ofText_render (hl : l.Blank) {v : Json} (hv : v.Fits) {blanks : String}
    (hblanks : ∀ c ∈ blanks.toList, Token.isBlank c = true) :
    Tree.ofText (v.render l ++ blanks) = (v.tree, false) := by
  have htext : (v.render l ++ blanks).toList = v.write l 0 blanks.toList := by
    rw [String.toList_append, render, String.toList_ofList, write_append, List.nil_append]
  have hends : Numeral.Ends blanks.toList := by
    have h := Numeral.ends_blanks_append hblanks Numeral.ends_nil
    rwa [List.append_nil] at h
  have hnone : Token.all blanks.toList = [] := by
    have h := Token.all_blanks_append hblanks []
    rwa [List.append_nil, Token.all_nil] at h
  rw [Tree.ofText, htext, all_write hl v 0 hv hends, hnone, ofTokens, foldl_tokens]
  rfl

end Json

end SchemaSurvey
