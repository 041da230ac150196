import BenchGate.Proofs.Json.Grammar

/-!
# Documents read back

A document that was written is read as the same document, up to the numbers that JSON cannot tell
apart: zero loses its sign, and what is no finite number becomes null (`Datum.readBack`). This holds
for both layouts (`Json.read?_write`), because each of them is a text of the grammar
(`Json.spells_chars`).
-/

namespace BenchGate

namespace Datum

mutual

/-- A document as its text gives it back. -/
def readBack : Json.Document → Json.Document
  | .null => .null
  | .bool value => .bool value
  | .number value => if value.isFinite then .number value.readBack else .null
  | .text units => .text units
  | .list items => .list (itemsBack items)
  | .record members => .record (membersBack members)
  | .other _ => .record []

/-- The items of a list as their texts give them back. -/
def itemsBack : List Json.Document → List Json.Document
  | [] => []
  | item :: items => item.readBack :: itemsBack items

/-- The members of a record as their texts give them back. -/
def membersBack : List (String × Json.Document) → List (String × Json.Document)
  | [] => []
  | (name, value) :: members => (name, value.readBack) :: membersBack members

end

theorem itemsBack_eq_map (items : List Json.Document) : itemsBack items = items.map readBack := by
  induction items with
  | nil => rfl
  | cons item items ih => rw [itemsBack, ih, List.map_cons]

theorem membersBack_eq_map (members : List (String × Json.Document)) :
    membersBack members = members.map fun member => (member.1, member.2.readBack) := by
  induction members with
  | nil => rfl
  | cons member members ih => rw [membersBack, ih, List.map_cons]

end Datum

namespace Json

variable {layout : Layout} {depth : ℕ} {before after text : List Char} {d : Document}

/-! ## Written documents are texts of the grammar -/

theorem areBlank_lineBreak (layout : Layout) (depth : ℕ) : AreBlank (layout.lineBreak depth) := by
  intro c hc
  cases layout with
  | compact => cases hc
  | indented width =>
    rcases List.mem_cons.1 hc with rfl | hc
    · decide
    · rw [List.eq_of_mem_replicate hc]
      decide

/-- A colon and blanks. -/
theorem colon_eq (layout : Layout) : ∃ blanks, layout.colon = ':' :: blanks ∧ AreBlank blanks := by
  cases layout with
  | compact => exact ⟨[], rfl, areBlank_nil⟩
  | indented width => exact ⟨[' '], rfl, List.forall_mem_singleton.2 (by decide)⟩

/-- A name that is written is the name of a member. -/
theorem names_quotedName (name : String) : Names (quotedName name) name :=
  ⟨_, quoted_quoted _, (Utf16.decode_units name).symm⟩

/-- A written name and its value are a member. -/
theorem spells_member (layout : Layout) (name : String) (hbefore : AreBlank before)
    (h : Spells text (.value d)) (hafter : AreBlank after) :
    Spells (before ++ quotedName name ++ layout.colon ++ text ++ after) (.member name d) := by
  obtain ⟨blanks, hcolon, hblanks⟩ := colon_eq layout
  have hmember :=
    Spells.member hbefore (names_quotedName name) areBlank_nil (.element hblanks h hafter)
  simpa [hcolon] using hmember

mutual

/-- What is written for a value is a text of the value that is read back. -/
theorem spells_chars (layout : Layout) : ∀ (d : Document) (depth : ℕ),
    Spells (chars layout depth d) (.value d.readBack)
  | .null, depth => .null
  | .bool true, depth => .boolTrue
  | .bool false, depth => .boolFalse
  | .number x, depth => by
    rw [chars, number, Datum.readBack]
    split_ifs with hx
    · exact .number (number_numeralChars hx)
    · exact .null
  | .text units, depth => .text (quoted_quoted units)
  | .list [], depth => .emptyList areBlank_nil
  | .list (item :: items), depth => by
    have hitems := Spells.list (spells_itemChars layout items (depth + 1)
      (areBlank_lineBreak layout (depth + 1)) (spells_chars layout item (depth + 1))
      (areBlank_lineBreak layout depth))
    simpa [chars, Datum.readBack, Datum.itemsBack] using hitems
  | .record [], depth => .emptyRecord areBlank_nil
  | .record ((name, value) :: members), depth => by
    have hmembers := Spells.record (spells_memberChars layout members (depth + 1) name
      (areBlank_lineBreak layout (depth + 1)) (spells_chars layout value (depth + 1))
      (areBlank_lineBreak layout depth))
    simpa [chars, Datum.readBack, Datum.membersBack] using hmembers
  | .other kind, depth => .emptyRecord areBlank_nil

/-- An item and those written after it are the elements of a list. -/
theorem spells_itemChars (layout : Layout) : ∀ (items : List Json.Document) (depth : ℕ)
    {before text after : List Char} {d : Document}, AreBlank before → Spells text (.value d) →
    AreBlank after → Spells (before ++ text ++ itemChars layout depth items ++ after)
      (.elements (d :: Datum.itemsBack items))
  | [], depth, before, text, after, d, hbefore, h, hafter => by
    simpa [itemChars, Datum.itemsBack] using Spells.lastElement (.element hbefore h hafter)
  | item :: items, depth, before, text, after, d, hbefore, h, hafter => by
    have hitems := spells_itemChars layout items depth (areBlank_lineBreak layout depth)
      (spells_chars layout item depth) hafter
    have helements := Spells.elements (.element hbefore h areBlank_nil) hitems
    simpa [itemChars, Datum.itemsBack] using helements

/-- A member and those written after it are the members of a record. -/
theorem spells_memberChars (layout : Layout) :
    ∀ (members : List (String × Json.Document)) (depth : ℕ) (name : String) {before text after : List Char} {d : Document}, AreBlank before →
    Spells text (.value d) → AreBlank after →
    Spells (before ++ quotedName name ++ layout.colon ++ text ++ memberChars layout depth members ++
      after) (.members ((name, d) :: Datum.membersBack members))
  | [], depth, name, before, text, after, d, hbefore, h, hafter => by
    simpa [memberChars, Datum.membersBack] using
      Spells.lastMember (spells_member layout name hbefore h hafter)
  | (name', value) :: members, depth, name, before, text, after, d, hbefore, h, hafter => by
    have hmembers := spells_memberChars layout members depth name'
      (areBlank_lineBreak layout depth) (spells_chars layout value depth) hafter
    have hboth := Spells.members (spells_member layout name hbefore h areBlank_nil) hmembers
    simpa [memberChars, Datum.membersBack] using hboth

end

/-- A document that was written reads back, also with blanks after it. -/
theorem read?_write_append (layout : Layout) (d : Document) {blanks : String}
    (h : AreBlank blanks.toList) :
    read? (write layout d ++ blanks) = some d.readBack := by
  rw [read?_eq_some_iff, String.toList_append, write, String.toList_ofList]
  exact .element areBlank_nil (spells_chars layout d 0) h

/-- A document that was written reads back. -/
theorem read?_write (layout : Layout) (d : Document) :
    read? (write layout d) = some d.readBack := by
  have hread : read? (write layout d ++ "") = some d.readBack :=
    read?_write_append layout d fun c hc => nomatch hc
  rwa [String.append_empty] at hread

/-! ## What a text tells apart -/

mutual

/-- A text says no more than what is read from it. -/
theorem chars_readBack (layout : Layout) (depth : ℕ) :
    ∀ d : Document, chars layout depth d.readBack = chars layout depth d
  | .null => rfl
  | .bool value => rfl
  | .number x => by
    rw [Datum.readBack]
    split_ifs with hx
    · simp only [chars, number, Float.isFinite_readBack hx, hx, if_true,
        Float.numeralChars_readBack hx]
    · simp only [chars, number, hx, if_false, Bool.false_eq_true]
  | .text units => rfl
  | .list [] => rfl
  | .list (item :: items) => by
    simp only [Datum.readBack, Datum.itemsBack, chars, chars_readBack layout (depth + 1) item,
      itemChars_itemsBack layout (depth + 1) items]
  | .record [] => rfl
  | .record ((name, value) :: members) => by
    simp only [Datum.readBack, Datum.membersBack, chars, chars_readBack layout (depth + 1) value,
      memberChars_membersBack layout (depth + 1) members]
  | .other kind => rfl

theorem itemChars_itemsBack (layout : Layout) (depth : ℕ) : ∀ items : List Json.Document,
    itemChars layout depth (Datum.itemsBack items) = itemChars layout depth items
  | [] => rfl
  | item :: items => by
    simp only [Datum.itemsBack, itemChars, chars_readBack layout depth item,
      itemChars_itemsBack layout depth items]

theorem memberChars_membersBack (layout : Layout) (depth : ℕ) :
    ∀ members : List (String × Json.Document),
      memberChars layout depth (Datum.membersBack members) = memberChars layout depth members
  | [] => rfl
  | (name, value) :: members => by
    simp only [Datum.membersBack, memberChars, chars_readBack layout depth value,
      memberChars_membersBack layout depth members]

end

/-- Documents have one text exactly when they read back alike. -/
theorem write_eq_write_iff {layout : Layout} {d d' : Document} :
    write layout d = write layout d' ↔ d.readBack = d'.readBack := by
  constructor
  · intro h
    have hread := read?_write layout d
    rw [h, read?_write, Option.some.injEq] at hread
    exact hread.symm
  · intro h
    rw [write, write, ← chars_readBack layout 0 d, h, chars_readBack]

end Json

end BenchGate
