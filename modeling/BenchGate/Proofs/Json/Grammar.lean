import BenchGate.Proofs.Json.Parts

/-!
# The grammar of documents

`Json.Spells` is the grammar of JSON: the texts of values, of the elements of a list and the members
of a record with blanks around them, and what each of them stands for. A document is an element that
fills its text. The reader accepts exactly the documents and gives what they stand for
(`Json.read?_eq_some_iff`): it takes no more and no less than a text of the grammar
(`Json.follows`), and it finds every such text (`Spells.isRead`). Its fuel is the nesting that a
text can have, which is bounded by the length of the text.
-/

namespace BenchGate.Json

open Literal

/-- Blanks, which may stand around the parts of a document. -/
def AreBlank (text : List Char) : Prop := ∀ c ∈ text, c ∈ [' ', '\t', '\n', '\r']

/-- What a part of a document stands for: a value, a value with blanks around it, the elements of a
list, a member, and the members of a record. -/
inductive Part where
  | value (d : Document)
  | element (d : Document)
  | elements (items : List Document)
  | member (name : String) (d : Document)
  | members (members : List (String × Document))

/-- A quoted text is the name of a member. -/
def Names (quoted : List Char) (name : String) : Prop :=
  ∃ units, Quoted quoted units ∧ name = Utf16.decode units

/-- The texts of the parts of a document. -/
inductive Spells : List Char → Part → Prop where
  | null : Spells ['n', 'u', 'l', 'l'] (.value .null)
  | boolTrue : Spells ['t', 'r', 'u', 'e'] (.value (.bool true))
  | boolFalse : Spells ['f', 'a', 'l', 's', 'e'] (.value (.bool false))
  | number {text : List Char} {x : Float} (h : Number text x) : Spells text (.value (.number x))
  | text {text : List Char} {units : List UInt16} (h : Quoted text units) :
      Spells text (.value (.text units))
  | emptyList {blanks : List Char} (h : AreBlank blanks) :
      Spells ('[' :: (blanks ++ [']'])) (.value (.list []))
  | list {text : List Char} {items : List Document} (h : Spells text (.elements items)) :
      Spells ('[' :: (text ++ [']'])) (.value (.list items))
  | emptyRecord {blanks : List Char} (h : AreBlank blanks) :
      Spells ('\x7b' :: (blanks ++ ['\x7d'])) (.value (.record []))
  | record {text : List Char} {members : List (String × Document)}
      (h : Spells text (.members members)) :
      Spells ('\x7b' :: (text ++ ['\x7d'])) (.value (.record members))
  | element {before text after : List Char} {d : Document} (hbefore : AreBlank before)
      (h : Spells text (.value d)) (hafter : AreBlank after) :
      Spells (before ++ (text ++ after)) (.element d)
  | lastElement {text : List Char} {d : Document} (h : Spells text (.element d)) :
      Spells text (.elements [d])
  | elements {text rest : List Char} {d : Document} {items : List Document}
      (h : Spells text (.element d)) (hrest : Spells rest (.elements items)) :
      Spells (text ++ ',' :: rest) (.elements (d :: items))
  | member {before quoted after text : List Char} {name : String} {d : Document}
      (hbefore : AreBlank before) (hname : Names quoted name) (hafter : AreBlank after)
      (h : Spells text (.element d)) :
      Spells (before ++ (quoted ++ (after ++ ':' :: text))) (.member name d)
  | lastMember {text : List Char} {name : String} {d : Document}
      (h : Spells text (.member name d)) : Spells text (.members [(name, d)])
  | members {text rest : List Char} {name : String} {d : Document}
      {members : List (String × Document)} (h : Spells text (.member name d)) (hrest : Spells rest (.members members)) :
      Spells (text ++ ',' :: rest) (.members ((name, d) :: members))

variable {fuel : ℕ} {blanks text rest : List Char} {d : Document} {part : Part}

/-! ## Blanks -/

theorem areBlank_nil : AreBlank [] := List.forall_mem_nil _

theorem AreBlank.append (h : AreBlank blanks) (h' : AreBlank text) : AreBlank (blanks ++ text) :=
  List.forall_mem_append.2 ⟨h, h'⟩

theorem isSpace_iff {c : Char} : isSpace c = true ↔ c ∈ [' ', '\t', '\n', '\r'] := by
  simp [isSpace, or_assoc]

theorem areBlank_iff : AreBlank blanks ↔ ∀ c ∈ blanks, isSpace c = true := by
  simp only [AreBlank, isSpace_iff]

/-- Blanks in front are left out. -/
theorem skip_append (h : AreBlank blanks) : skip (blanks ++ text) = skip text := by
  rw [skip, List.dropWhile_append_of_pos (areBlank_iff.1 h), skip]

/-- Only of blanks nothing is left. -/
theorem skip_eq_nil_iff : skip blanks = [] ↔ AreBlank blanks := by
  rw [areBlank_iff, skip, List.dropWhile_eq_nil_iff]

/-- A text that begins with a character other than a blank is kept. -/
theorem skip_of_head {c : Char} (h : isSpace c = false) : skip (c :: text) = c :: text := by
  rw [skip, List.dropWhile_cons_of_neg (by simp [h])]

/-- What is left out are blanks. -/
theorem exists_skip (text : List Char) : ∃ blanks, AreBlank blanks ∧ text = blanks ++ skip text :=
  ⟨text.takeWhile isSpace, areBlank_iff.2 fun _ hc => List.mem_takeWhile_imp hc,
    List.takeWhile_append_dropWhile.symm⟩

theorem readValue?_append (h : AreBlank blanks) :
    readValue? fuel (blanks ++ text) = readValue? fuel text := by
  cases fuel with
  | zero => rfl
  | succ fuel => rw [readValue?, readValue?, skip_append h]

/-! ## What ends a value, and what begins it -/

theorem stops_cons {c : Char} (h : isNumberChar c = false) : Stops (c :: rest) := by
  rintro _ ⟨⟩
  exact h

/-- A blank ends a number. -/
theorem isNumberChar_of_isSpace {c : Char} (h : isSpace c = true) : isNumberChar c = false := by
  simp only [isSpace_iff, List.mem_cons, List.not_mem_nil, or_false] at h
  rcases h with rfl | rfl | rfl | rfl <;> rfl

theorem stops_append (h : AreBlank blanks) (hrest : Stops rest) : Stops (blanks ++ rest) := by
  cases blanks with
  | nil => exact hrest
  | cons c blanks =>
    exact stops_cons (isNumberChar_of_isSpace (areBlank_iff.1 h c List.mem_cons_self))

/-- What a value begins with: no blank, and no closing bracket. -/
def Begins (text : List Char) : Prop :=
  ∃ c rest, text = c :: rest ∧ isSpace c = false ∧ c ≠ ']' ∧ c ≠ '\x7d'

theorem Begins.append (h : Begins text) (rest : List Char) : Begins (text ++ rest) := by
  obtain ⟨c, text, rfl, hc⟩ := h
  exact ⟨c, text ++ rest, rfl, hc⟩

/-- A number begins with a digit or with a minus. -/
theorem Number.head {x : Float} (h : Number text x) :
    ∃ c rest, text = c :: rest ∧ (c = '-' ∨ c.isDigit = true) := by
  obtain ⟨hsign, hplus, hplain, -⟩ := h
  cases hsign with
  | plus => exact absurd rfl hplus
  | minus => exact ⟨'-', _, rfl, .inl rfl⟩
  | none =>
    obtain @⟨whole, fraction, power, e, hwhole, -, -, -⟩ := hplain
    obtain ⟨c, whole, rfl⟩ := List.exists_cons_of_ne_nil hwhole.ne_nil
    exact ⟨c, _, rfl, .inr (hwhole.isDigit c List.mem_cons_self)⟩

/-- Such a character begins no other value. -/
theorem number_head_ne {c : Char} (h : c = '-' ∨ c.isDigit = true) :
    isSpace c = false ∧ c ∉ [']', '\x7d', '[', '\x7b', '"', 'n', 't', 'f'] := by
  have hnumber : isNumberChar c = true := by
    rcases h with rfl | h
    · rfl
    · simp [isNumberChar, h]
  constructor
  · by_contra hspace
    rw [isNumberChar_of_isSpace (by simpa using hspace)] at hnumber
    cases hnumber
  · intro hmem
    simp only [List.mem_cons, List.not_mem_nil, or_false] at hmem
    rcases hmem with rfl | rfl | rfl | rfl | rfl | rfl | rfl | rfl <;> cases hnumber

/-- After its blanks, no part is empty or begins with a closing bracket. -/
theorem Spells.begins (h : Spells text part) :
    ∃ blanks rest, AreBlank blanks ∧ text = blanks ++ rest ∧ Begins rest := by
  have hfixed : ∀ {c rest}, isSpace c = false ∧ c ≠ ']' ∧ c ≠ '\x7d' →
      ∃ blanks rest', AreBlank blanks ∧ c :: rest = blanks ++ rest' ∧ Begins rest' :=
    fun h => ⟨[], _, areBlank_nil, rfl, _, _, rfl, h⟩
  induction h with
  | null | boolTrue | boolFalse | emptyList | list | emptyRecord | record =>
    exact hfixed (by decide)
  | number h =>
    obtain ⟨c, rest, rfl, hc⟩ := h.head
    obtain ⟨hspace, hne⟩ := number_head_ne hc
    exact hfixed ⟨hspace, fun h => hne (by simp [h]), fun h => hne (by simp [h])⟩
  | text h =>
    obtain ⟨-⟩ := h
    exact hfixed (by decide)
  | @element before _ after _ hbefore _ hafter ih =>
    obtain ⟨blanks, rest, hblanks, rfl, hbegins⟩ := ih
    exact ⟨before ++ blanks, rest ++ after, hbefore.append hblanks, by simp, hbegins.append _⟩
  | member hbefore hname =>
    obtain ⟨_, ⟨-⟩, -⟩ := hname
    exact ⟨_, _, hbefore, rfl, _, _, rfl, by decide⟩
  | lastElement _ ih | lastMember _ ih => exact ih
  | elements _ _ ih | members _ _ ih =>
    obtain ⟨blanks, rest, hblanks, rfl, hbegins⟩ := ih
    exact ⟨_, _, hblanks, List.append_assoc _ _ _, hbegins.append _⟩

/-! ## Reading on -/

/-- Reads on after an item. -/
def itemsAfter? (fuel : ℕ) (done : List Document) (text : List Char) :
    Option (List Document × List Char) :=
  match skip text with
  | ',' :: rest => readItems? fuel done rest
  | ']' :: rest => some (done.reverse, rest)
  | _ => none

/-- Reads on after a member. -/
def membersAfter? (fuel : ℕ) (done : List (String × Document)) (text : List Char) :
    Option (List (String × Document) × List Char) :=
  match skip text with
  | ',' :: rest => readMembers? fuel done rest
  | '\x7d' :: rest => some (done.reverse, rest)
  | _ => none

theorem readItems?_succ (done : List Document) :
    readItems? (fuel + 1) done text =
      (readValue? fuel text).bind fun item => itemsAfter? fuel (item.1 :: done) item.2 := by
  rw [readItems?]
  rfl

/-- Items may have blanks in front. -/
theorem readItems?_append (h : AreBlank blanks) (done : List Document) :
    readItems? fuel done (blanks ++ text) = readItems? fuel done text := by
  cases fuel with
  | zero => rfl
  | succ fuel => rw [readItems?_succ, readItems?_succ, readValue?_append h]

theorem readItems?_skip (done : List Document) :
    readItems? fuel done (skip text) = readItems? fuel done text := by
  obtain ⟨blanks, hblanks, htext⟩ := exists_skip text
  conv_rhs => rw [htext, readItems?_append hblanks]

theorem readMembers?_append (h : AreBlank blanks) (done : List (String × Document)) :
    readMembers? fuel done (blanks ++ text) = readMembers? fuel done text := by
  cases fuel with
  | zero => rfl
  | succ fuel => rw [readMembers?, readMembers?, skip_append h]

theorem readMembers?_skip (done : List (String × Document)) :
    readMembers? fuel done (skip text) = readMembers? fuel done text := by
  obtain ⟨blanks, hblanks, htext⟩ := exists_skip text
  conv_rhs => rw [htext, readMembers?_append hblanks]

/-! ## Every text of the grammar is read -/

/-- How a text of the grammar is read, whatever follows it. -/
def IsRead (text : List Char) : Part → Prop
  | .value d => ∀ {fuel rest}, text.length ≤ fuel → Stops rest →
      readValue? fuel (text ++ rest) = some (d, rest)
  | .element d => ∀ {fuel rest}, text.length ≤ fuel → Stops rest →
      ∃ blanks, AreBlank blanks ∧ readValue? fuel (text ++ rest) = some (d, blanks ++ rest)
  | .elements items => ∀ {fuel rest} done, text.length < fuel →
      readItems? fuel done (text ++ ']' :: rest) = some (done.reverse ++ items, rest)
  | .member name d => ∀ {fuel rest} done, text.length ≤ fuel → Stops rest →
      readMembers? (fuel + 1) done (text ++ rest) = membersAfter? fuel ((name, d) :: done) rest
  | .members members => ∀ {fuel rest} done, text.length < fuel →
      readMembers? fuel done (text ++ '\x7d' :: rest) = some (done.reverse ++ members, rest)

/-- A number is read as a value. -/
theorem Number.isRead {x : Float} (h : Number text x) : IsRead text (.value (.number x)) := by
  intro fuel rest hfuel hrest
  obtain ⟨c, chars, rfl, hc⟩ := h.head
  obtain ⟨hspace, hne⟩ := number_head_ne hc
  obtain ⟨fuel, rfl⟩ := Nat.exists_eq_add_one_of_ne_zero (Nat.ne_zero_of_lt hfuel)
  have hnumber := h.read hrest
  rw [List.cons_append] at hnumber ⊢
  rw [readValue?, skip_of_head hspace]
  split
  all_goals first
    | exact hnumber
    | next h =>
      obtain rfl := (List.cons.inj h).1
      exact absurd hne (by decide)

/-- A quoted text is read as a text. -/
theorem Quoted.isRead {units : List UInt16} (h : Quoted text units) :
    IsRead text (.value (.text units)) := by
  intro fuel rest hfuel _
  obtain ⟨hbody⟩ := h
  obtain ⟨fuel, rfl⟩ := Nat.exists_eq_add_one_of_ne_zero (Nat.ne_zero_of_lt hfuel)
  have hunits := hbody.read [] rest
  rw [List.cons_append, List.append_assoc, List.singleton_append, readValue?, skip_of_head rfl]
  simp only [hunits, List.reverse_nil, List.nil_append, Option.map_some]

/-- A list is read from its brackets on. -/
theorem isRead_list {items : List Document} (h : Spells text (.elements items))
    (hitems : IsRead text (.elements items)) :
    IsRead ('[' :: (text ++ [']'])) (.value (.list items)) := by
  intro fuel rest hfuel _
  obtain ⟨fuel, rfl⟩ := Nat.exists_eq_add_one_of_ne_zero (Nat.ne_zero_of_lt hfuel)
  have hread := @hitems fuel rest [] (by simp at hfuel; omega)
  obtain ⟨blanks, form, hblanks, rfl, c, form, rfl, hspace, hne, -⟩ := h.begins
  rw [List.append_assoc, readItems?_append hblanks, List.cons_append] at hread
  simp only [List.cons_append, List.append_assoc, List.nil_append]
  rw [readValue?, skip_of_head rfl]
  simp only
  rw [skip_append hblanks, skip_of_head hspace]
  split
  · next h => cases h; exact absurd rfl hne
  · rw [hread]
    rfl

/-- A record is read from its braces on. -/
theorem isRead_record {members : List (String × Document)} (h : Spells text (.members members))
    (hmembers : IsRead text (.members members)) :
    IsRead ('\x7b' :: (text ++ ['\x7d'])) (.value (.record members)) := by
  intro fuel rest hfuel _
  obtain ⟨fuel, rfl⟩ := Nat.exists_eq_add_one_of_ne_zero (Nat.ne_zero_of_lt hfuel)
  have hread := @hmembers fuel rest [] (by simp at hfuel; omega)
  obtain ⟨blanks, form, hblanks, rfl, c, form, rfl, hspace, -, hne⟩ := h.begins
  rw [List.append_assoc, readMembers?_append hblanks, List.cons_append] at hread
  simp only [List.cons_append, List.append_assoc, List.nil_append]
  rw [readValue?, skip_of_head rfl]
  simp only
  rw [skip_append hblanks, skip_of_head hspace]
  split
  · next h => cases h; exact absurd rfl hne
  · rw [hread]
    rfl

/-- An item is read up to what follows it. -/
theorem readItems?_of_isRead (h : IsRead text (.element d)) (hfuel : text.length ≤ fuel)
    (hrest : Stops rest) (done : List Document) :
    readItems? (fuel + 1) done (text ++ rest) = itemsAfter? fuel (d :: done) rest := by
  obtain ⟨blanks, hblanks, hread⟩ := h hfuel hrest
  rw [readItems?_succ, hread, Option.bind_some, itemsAfter?, skip_append hblanks, itemsAfter?]

/-- A member is read up to what follows it. -/
theorem isRead_member {before quoted after : List Char} {name : String} (hbefore : AreBlank before)
    (hname : Names quoted name) (hafter : AreBlank after) (h : IsRead text (.element d)) :
    IsRead (before ++ (quoted ++ (after ++ ':' :: text))) (.member name d) := by
  intro fuel rest done hfuel hrest
  obtain ⟨blanks, hblanks, hread⟩ := @h fuel rest (by simp at hfuel; omega) hrest
  obtain ⟨units, ⟨hbody⟩, rfl⟩ := hname
  have hunits := hbody.read [] (after ++ ':' :: (text ++ rest))
  simp only [List.cons_append, List.append_assoc, List.nil_append]
  rw [readMembers?, skip_append hbefore, skip_of_head rfl]
  simp only [hunits, Option.bind_eq_bind, Option.bind_some]
  rw [skip_append hafter, skip_of_head rfl]
  simp only [hread, Option.bind_some, skip_append hblanks, List.reverse_nil, List.nil_append]
  rfl

/-- Every text of the grammar is read. -/
theorem Spells.isRead (h : Spells text part) : IsRead text part := by
  induction h with
  | null | boolTrue | boolFalse =>
    intro fuel rest hfuel _
    obtain ⟨fuel, rfl⟩ := Nat.exists_eq_add_one_of_ne_zero (Nat.ne_zero_of_lt hfuel)
    rfl
  | number h => exact h.isRead
  | text h => exact h.isRead
  | emptyList hblanks | emptyRecord hblanks =>
    intro fuel rest hfuel _
    obtain ⟨fuel, rfl⟩ := Nat.exists_eq_add_one_of_ne_zero (Nat.ne_zero_of_lt hfuel)
    rw [List.cons_append, List.append_assoc, readValue?, skip_of_head rfl]
    simp only
    rw [skip_append hblanks, List.singleton_append, skip_of_head rfl]
    rfl
  | list h ih => exact isRead_list h ih
  | record h ih => exact isRead_record h ih
  | element hbefore _ hafter ih =>
    intro fuel rest hfuel hrest
    refine ⟨_, hafter, ?_⟩
    rw [List.append_assoc, List.append_assoc, readValue?_append hbefore]
    exact ih (by simp at hfuel; omega) (stops_append hafter hrest)
  | lastElement _ ih =>
    intro fuel rest done hfuel
    obtain ⟨fuel, rfl⟩ := Nat.exists_eq_add_one_of_ne_zero (Nat.ne_zero_of_lt hfuel)
    rw [readItems?_of_isRead ih (Nat.le_of_lt_succ hfuel) (stops_cons rfl), itemsAfter?,
      skip_of_head rfl]
    simp
  | elements _ _ ih ihrest =>
    intro fuel rest done hfuel
    rw [List.length_append, List.length_cons] at hfuel
    obtain ⟨fuel, rfl⟩ := Nat.exists_eq_add_one_of_ne_zero (Nat.ne_zero_of_lt hfuel)
    rw [List.append_assoc, List.cons_append, readItems?_of_isRead ih (by omega) (stops_cons rfl),
      itemsAfter?, skip_of_head rfl]
    simp only
    rw [ihrest _ (by omega)]
    simp
  | member hbefore hname hafter _ ih => exact isRead_member hbefore hname hafter ih
  | lastMember _ ih =>
    intro fuel rest done hfuel
    obtain ⟨fuel, rfl⟩ := Nat.exists_eq_add_one_of_ne_zero (Nat.ne_zero_of_lt hfuel)
    rw [ih done (Nat.le_of_lt_succ hfuel) (stops_cons rfl), membersAfter?, skip_of_head rfl]
    simp
  | members _ _ ih ihrest =>
    intro fuel rest done hfuel
    rw [List.length_append, List.length_cons] at hfuel
    obtain ⟨fuel, rfl⟩ := Nat.exists_eq_add_one_of_ne_zero (Nat.ne_zero_of_lt hfuel)
    rw [List.append_assoc, List.cons_append, ih done (by omega) (stops_cons rfl), membersAfter?,
      skip_of_head rfl]
    simp only
    rw [ihrest _ (by omega)]
    simp

/-! ## Only texts of the grammar are read -/

/-- What the reader takes, with some fuel, is a text of the grammar. -/
structure Follows (fuel : ℕ) : Prop where
  value : ∀ {text d rest}, readValue? fuel text = some (d, rest) →
    ∃ blanks form, text = blanks ++ (form ++ rest) ∧ AreBlank blanks ∧ Spells form (.value d)
  items : ∀ {done text items rest}, readItems? fuel done text = some (items, rest) →
    ∃ form added, text = form ++ ']' :: rest ∧ items = done.reverse ++ added ∧
      Spells form (.elements added)
  members : ∀ {done text members rest}, readMembers? fuel done text = some (members, rest) →
    ∃ form added, text = form ++ '\x7d' :: rest ∧ members = done.reverse ++ added ∧
      Spells form (.members added)

/-- A value is an element with the blanks up to the next character. -/
theorem Follows.element (h : Follows fuel) {next : Char} {after : List Char}
    (hread : readValue? fuel text = some (d, rest)) (hskip : skip rest = next :: after) :
    ∃ form, text = form ++ next :: after ∧ Spells form (.element d) := by
  obtain ⟨before, form, rfl, hbefore, hform⟩ := h.value hread
  obtain ⟨blanks, hblanks, hrest⟩ := exists_skip rest
  rw [hskip] at hrest
  exact ⟨_, by simp [hrest], .element hbefore hform hblanks⟩

theorem itemsAfter?_eq_some {done : List Document} {result : List Document × List Char}
    (h : itemsAfter? fuel done text = some result) :
    (∃ rest, skip text = ',' :: rest ∧ readItems? fuel done rest = some result) ∨
      ∃ rest, skip text = ']' :: rest ∧ result = (done.reverse, rest) := by
  unfold itemsAfter? at h
  split at h
  · next hskip => exact .inl ⟨_, hskip, h⟩
  · next hskip => exact .inr ⟨_, hskip, (Option.some.inj h).symm⟩
  · cases h

theorem membersAfter?_eq_some {done : List (String × Document)}
    {result : List (String × Document) × List Char}
    (h : membersAfter? fuel done text = some result) :
    (∃ rest, skip text = ',' :: rest ∧ readMembers? fuel done rest = some result) ∨
      ∃ rest, skip text = '\x7d' :: rest ∧ result = (done.reverse, rest) := by
  unfold membersAfter? at h
  split at h
  · next hskip => exact .inl ⟨_, hskip, h⟩
  · next hskip => exact .inr ⟨_, hskip, (Option.some.inj h).symm⟩
  · cases h

/-- What is read as a member is one, up to its value. -/
theorem exists_of_readMembers? {done : List (String × Document)}
    {result : List (String × Document) × List Char}
    (h : readMembers? (fuel + 1) done text = some result) :
    ∃ before quoted after name value d rest, AreBlank before ∧ Names quoted name ∧
      AreBlank after ∧ text = before ++ (quoted ++ (after ++ ':' :: value)) ∧
      readValue? fuel value = some (d, rest) ∧
      membersAfter? fuel ((name, d) :: done) rest = some result := by
  obtain ⟨before, hbefore, htext⟩ := exists_skip text
  rw [readMembers?] at h
  split at h
  · next chars hskip =>
    obtain ⟨⟨name, afterName⟩, hname, hread⟩ := Option.bind_eq_some_iff.1 h
    obtain ⟨body, _, rfl, hbody, rfl⟩ := exists_of_readUnits? hname
    obtain ⟨after, hafter, hcolon⟩ := exists_skip afterName
    simp only at hread
    split at hread
    · next value hskip' =>
      obtain ⟨⟨d, rest⟩, hvalue, hmembers⟩ := Option.bind_eq_some_iff.1 hread
      refine ⟨before, _, after, _, value, d, rest, hbefore, ⟨_, .mk hbody, rfl⟩, hafter, ?_,
        hvalue, hmembers⟩
      rw [htext, hskip, hcolon, hskip']
      simp
    · cases hread
  · cases h

namespace Follows

variable (h : Follows fuel)
include h

theorem items_succ {done items : List Document}
    (hread : readItems? (fuel + 1) done text = some (items, rest)) :
    ∃ form added, text = form ++ ']' :: rest ∧ items = done.reverse ++ added ∧
      Spells form (.elements added) := by
  rw [readItems?_succ] at hread
  obtain ⟨⟨d, after⟩, hvalue, hafter⟩ := Option.bind_eq_some_iff.1 hread
  rcases itemsAfter?_eq_some hafter with ⟨next, hskip, hothers⟩ | ⟨next, hskip, heq⟩
  · obtain ⟨form, rfl, hform⟩ := h.element hvalue hskip
    obtain ⟨others, added, rfl, rfl, hadded⟩ := h.items hothers
    exact ⟨_, d :: added, by simp, by simp, .elements hform hadded⟩
  · obtain ⟨form, rfl, hform⟩ := h.element hvalue hskip
    cases heq
    exact ⟨form, [d], rfl, by simp, .lastElement hform⟩

theorem members_succ {done members : List (String × Document)}
    (hread : readMembers? (fuel + 1) done text = some (members, rest)) :
    ∃ form added, text = form ++ '\x7d' :: rest ∧ members = done.reverse ++ added ∧
      Spells form (.members added) := by
  obtain ⟨before, quoted, blanks, name, value, d, after, hbefore, hquoted, hblanks, rfl, hvalue,
    hafter⟩ := exists_of_readMembers? hread
  rcases membersAfter?_eq_some hafter with ⟨next, hskip, hothers⟩ | ⟨next, hskip, heq⟩
  · obtain ⟨form, rfl, hform⟩ := h.element hvalue hskip
    obtain ⟨others, added, rfl, rfl, hadded⟩ := h.members hothers
    exact ⟨_, (name, d) :: added, by simp, by simp,
      .members (.member hbefore hquoted hblanks hform) hadded⟩
  · obtain ⟨form, rfl, hform⟩ := h.element hvalue hskip
    cases heq
    exact ⟨_, [(name, d)], by simp, by simp, .lastMember (.member hbefore hquoted hblanks hform)⟩

theorem value_succ (hread : readValue? (fuel + 1) text = some (d, rest)) :
    ∃ blanks form, text = blanks ++ (form ++ rest) ∧ AreBlank blanks ∧ Spells form (.value d) := by
  obtain ⟨before, hbefore, htext⟩ := exists_skip text
  suffices hform : ∃ form, skip text = form ++ rest ∧ Spells form (.value d) by
    obtain ⟨form, hskip, hform⟩ := hform
    exact ⟨before, form, hskip ▸ htext, hbefore, hform⟩
  rw [readValue?] at hread
  split at hread
  · next hskip =>
    cases hread
    exact ⟨_, hskip, .null⟩
  · next hskip =>
    cases hread
    exact ⟨_, hskip, .boolTrue⟩
  · next hskip =>
    cases hread
    exact ⟨_, hskip, .boolFalse⟩
  · next hskip =>
    obtain ⟨⟨units, _⟩, hunits, heq⟩ := Option.map_eq_some_iff.1 hread
    cases heq
    obtain ⟨body, units, rfl, hbody, rfl⟩ := exists_of_readUnits? hunits
    exact ⟨_, by simp [hskip], .text (.mk hbody)⟩
  · next after hskip =>
    split at hread
    · next hend =>
      cases hread
      obtain ⟨blanks, hblanks, hafter⟩ := exists_skip after
      exact ⟨_, by rw [hskip, hafter, hend]; simp, .emptyList hblanks⟩
    · obtain ⟨⟨items, _⟩, hitems, heq⟩ := Option.map_eq_some_iff.1 hread
      cases heq
      rw [readItems?_skip] at hitems
      obtain ⟨form, added, rfl, rfl, hadded⟩ := h.items hitems
      exact ⟨_, by simp [hskip], .list hadded⟩
  · next after hskip =>
    split at hread
    · next hend =>
      cases hread
      obtain ⟨blanks, hblanks, hafter⟩ := exists_skip after
      exact ⟨_, by rw [hskip, hafter, hend]; simp, .emptyRecord hblanks⟩
    · obtain ⟨⟨members, _⟩, hmembers, heq⟩ := Option.map_eq_some_iff.1 hread
      cases heq
      rw [readMembers?_skip] at hmembers
      obtain ⟨form, added, rfl, rfl, hadded⟩ := h.members hmembers
      exact ⟨_, by simp [hskip], .record hadded⟩
  · obtain ⟨form, x, hform, hnumber, rfl⟩ := exists_of_readNumber? hread
    exact ⟨form, hform, .number hnumber⟩

end Follows

/-- Whatever the fuel, only texts of the grammar are read. -/
theorem follows (fuel : ℕ) : Follows fuel := by
  induction fuel with
  | zero =>
    constructor
    case value => exact fun h => by simp [readValue?] at h
    case items => exact fun h => by simp [readItems?] at h
    case members => exact fun h => by simp [readMembers?] at h
  | succ fuel ih => exact ⟨ih.value_succ, ih.items_succ, ih.members_succ⟩

/-- The reader accepts the documents of the grammar, and gives what they stand for. -/
theorem read?_eq_some_iff {text : String} :
    read? text = some d ↔ Spells text.toList (.element d) := by
  unfold read?
  rw [Option.bind_eq_bind, Option.bind_eq_some_iff]
  constructor
  · rintro ⟨⟨document, rest⟩, hvalue, hrest⟩
    simp only [List.isEmpty_iff, Option.ite_none_right_eq_some, Option.some.injEq] at hrest
    obtain ⟨hskip, rfl⟩ := hrest
    obtain ⟨before, form, htext, hbefore, hform⟩ := (follows _).value hvalue
    rw [htext]
    exact .element hbefore hform (skip_eq_nil_iff.1 hskip)
  · intro h
    have hlength : text.toList.length ≤ 2 * text.length + 2 := by
      rw [String.length_toList]
      omega
    have hstops : Stops [] := fun c hc => nomatch hc
    obtain ⟨blanks, hblanks, hread⟩ := h.isRead hlength hstops
    rw [List.append_nil, List.append_nil] at hread
    exact ⟨_, hread, by simp [skip_eq_nil_iff.2 hblanks]⟩

end BenchGate.Json
