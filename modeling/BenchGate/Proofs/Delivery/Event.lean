import BenchGate.Proofs.Config.Rule
import BenchGate.Proofs.Delivery.Request
import BenchGate.Proofs.Json.Grammar

/-!
# The commit of an event, and where an event stops naming one

An event names its commit at one path (`Datum.At`), and each place on the way there has to fit
(`Event.Fits`). `Event.parse_takesCommit` says how the text of an event is read: a document of the
JSON grammar that fits gives its commit unit by unit, one that does not is refused with one issue
about the first place that does not fit (`Event.IsAbout`), and what is no document is refused as
such. The messages of both refusals are spelled out.
-/

namespace BenchGate

namespace Datum

/-- The value at a path of member names. Of several members of one name the last one counts. -/
inductive At {τ : Type} : Datum τ → List String → Datum τ → Prop where
  | here (d : Datum τ) : At d [] d
  | member {members before after : List (String × Datum τ)} {name : String} {value d : Datum τ}
      {path : List String} (hmembers : members = before ++ (name, value) :: after)
      (hlast : ∀ m ∈ after, m.1 ≠ name) (h : At value path d) :
      At (.record members) (name :: path) d

/-- What a message calls the kind of a value. -/
inductive IsKind {τ : Type} : Datum τ → String → Prop where
  | null : IsKind .null "null"
  | bool (value : Bool) : IsKind (.bool value) "boolean"
  | number {value : Float} (h : value.isNaN = false) : IsKind (.number value) "number"
  | undefined {value : Float} (h : value.isNaN = true) : IsKind (.number value) "nan"
  | text (value : τ) : IsKind (.text value) "string"
  | list (items : List (Datum τ)) : IsKind (.list items) "array"
  | record (members : List (String × Datum τ)) : IsKind (.record members) "object"
  | other (kind : String) : IsKind (.other kind) kind

variable {τ : Type} {document value d : Datum τ} {members : List (String × Datum τ)}
  {name : String} {path : List String}

theorem isKind_kindName (d : Datum τ) : IsKind d d.kindName := by
  cases d with
  | number value =>
    cases h : value.isNaN with
    | false =>
      rw [kindName, h]
      exact .number h
    | true =>
      rw [kindName, h]
      exact .undefined h
  | null => exact .null
  | bool value => exact .bool value
  | text value => exact .text value
  | list items => exact .list items
  | record members => exact .record members
  | other kind => exact .other kind

/-- A name is looked up in its last member. -/
theorem lookup_eq_some_iff : lookup members name = some value ↔
    ∃ before after, members = before ++ (name, value) :: after ∧ ∀ m ∈ after, m.1 ≠ name := by
  simp only [lookup, Option.map_eq_some_iff, List.find?_eq_some_iff_append, beq_iff_eq,
    Bool.not_eq_true', beq_eq_false_iff_ne]
  constructor
  · rintro ⟨⟨_, _⟩, ⟨rfl, after, before, hmembers, hlast⟩, rfl⟩
    refine ⟨before.reverse, after.reverse, ?_, by simpa using hlast⟩
    rw [← List.reverse_inj, hmembers]
    simp
  · rintro ⟨before, after, rfl, hlast⟩
    exact ⟨(name, value), ⟨rfl, after.reverse, before.reverse, by simp, by simpa using hlast⟩, rfl⟩

@[simp]
theorem at_nil_iff : At document [] d ↔ document = d := by
  constructor
  · rintro ⟨⟩
    rfl
  · rintro rfl
    exact .here _

@[simp]
theorem at_cons_iff : At document (name :: path) d ↔
    ∃ members value, document = .record members ∧ lookup members name = some value ∧
      At value path d := by
  simp only [lookup_eq_some_iff]
  constructor
  · rintro ⟨⟩
    next hmembers hlast h => exact ⟨_, _, rfl, ⟨_, _, hmembers, hlast⟩, h⟩
  · rintro ⟨members, value, rfl, ⟨before, after, hmembers, hlast⟩, h⟩
    exact .member hmembers hlast h

/-- What is at the members of a record at a path. -/
theorem at_snoc_iff : At document (path ++ [name]) d ↔
    ∃ members, At document path (.record members) ∧ lookup members name = some d := by
  induction path generalizing document with
  | nil => simp
  | cons first path ih =>
    simp only [List.cons_append, at_cons_iff, ih]
    constructor
    · rintro ⟨outer, value, hdocument, hvalue, members, hmembers, hd⟩
      exact ⟨members, ⟨outer, value, hdocument, hvalue, hmembers⟩, hd⟩
    · rintro ⟨members, ⟨outer, value, hdocument, hvalue, hmembers⟩, hd⟩
      exact ⟨outer, value, hdocument, hvalue, members, hmembers, hd⟩

/-- Only one value is at a path. -/
theorem At.unique (h : At document path value) (h' : At document path d) : value = d := by
  induction path generalizing document with
  | nil => rw [← at_nil_iff.1 h, at_nil_iff.1 h']
  | cons name path ih =>
    obtain ⟨members, next, rfl, hnext, h⟩ := at_cons_iff.1 h
    obtain ⟨_, _, heq, hnext', h'⟩ := at_cons_iff.1 h'
    cases heq
    cases hnext.symm.trans hnext'
    exact ih h h'

/-- The member of a record at a path is what is one name further. -/
theorem At.snoc_iff (h : At document path (.record members)) :
    At document (path ++ [name]) d ↔ lookup members name = some d := by
  rw [at_snoc_iff]
  constructor
  · rintro ⟨members', h', hd⟩
    cases h.unique h'
    exact hd
  · exact fun hd => ⟨members, h, hd⟩

theorem expectRecord_eq_error_iff {value : Option (Datum τ)} {issue : Issue} :
    expectRecord path value = .error issue ↔
      (∀ members, value ≠ some (.record members)) ∧ issue = ⟨path, complaint "object" value⟩ := by
  unfold expectRecord
  split
  · next members => exact ⟨nofun, fun h => absurd rfl (h.1 members)⟩
  · next h => exact ⟨fun heq => ⟨h, (Except.error.inj heq).symm⟩, fun h' => h'.2 ▸ rfl⟩

theorem expectText_eq_error_iff {value : Option (Datum τ)} {issue : Issue} :
    expectText path value = .error issue ↔
      (∀ text, value ≠ some (.text text)) ∧ issue = ⟨path, complaint "string" value⟩ := by
  unfold expectText
  split
  · next text => exact ⟨nofun, fun h => absurd rfl (h.1 text)⟩
  · next h => exact ⟨fun heq => ⟨h, (Except.error.inj heq).symm⟩, fun h' => h'.2 ▸ rfl⟩

end Datum

namespace Event

open Datum

/-- The path of the commit. -/
def commitPath : List String := ["pull_request", "head", "sha"]

/-- The places on the way to the commit, from the root on. -/
def places : List (List String) :=
  [[], ["pull_request"], ["pull_request", "head"], commitPath]

/-- A document has a commit at its place, or a record at a place on the way. -/
def Fits (document : Json.Document) (place : List String) : Prop :=
  if place = commitPath then ∃ commit, commit ≠ [] ∧ At document place (.text commit)
  else ∃ members, At document place (.record members)

/-- What is wrong at a place: nothing is there, or a value of another kind, or an empty text. -/
inductive Fault (document : Json.Document) : List String → Complaint → Prop where
  | missing {place : List String} (h : ∀ d, ¬At document place d) : Fault document place .missing
  | noRecord {place : List String} {d : Json.Document} {kind : String} (hplace : place ≠ commitPath)
      (h : At document place d) (hd : ∀ members, d ≠ .record members) (hkind : IsKind d kind) :
      Fault document place (.wrongKind "object" kind)
  | noText {d : Json.Document} {kind : String} (h : At document commitPath d)
      (hd : ∀ text, d ≠ .text text) (hkind : IsKind d kind) :
      Fault document commitPath (.wrongKind "string" kind)
  | empty (h : At document commitPath (.text [])) :
      Fault document commitPath (.brokenRule "Head commit SHA must not be empty")

/-- An issue says what is wrong at the first place at which a document does not fit. -/
structure IsAbout (document : Json.Document) (issue : Issue) : Prop where
  first : ∃ before after, places = before ++ issue.path :: after ∧
    ∀ place ∈ before, Fits document place
  misfit : ¬Fits document issue.path
  fault : Fault document issue.path issue.complaint

/-- What a message calls the places. -/
def placeNames : List (List String × String) :=
  [([], "root"), (["pull_request"], "pull_request"),
    (["pull_request", "head"], "pull_request.head"), (commitPath, "pull_request.head.sha")]

variable {document : Json.Document} {place : List String} {issue : Issue}

/-- An issue about a document is shown as one of the places and the complaint in words. -/
theorem IsAbout.shown (h : IsAbout document issue) : ∃ place words,
    (issue.path, place) ∈ placeNames ∧ issue.complaint.Says words ∧
      issue.message = place ++ ": " ++ words := by
  obtain ⟨before, after, hplaces, -⟩ := h.first
  have hmem : issue.path ∈ places := by simp [hplaces]
  have hall : ∀ path ∈ places, (path, (Issue.mk path .missing).place) ∈ placeNames := by
    decide +kernel
  exact ⟨_, _, hall issue.path hmem, issue.complaint.says_message, rfl⟩

/-- Where something is wrong the document does not fit. -/
theorem Fault.not_fits {complaint : Complaint} (h : Fault document place complaint) :
    ¬Fits document place := by
  unfold Fits
  cases h with
  | missing h =>
    split_ifs
    · exact fun ⟨_, _, hat⟩ => h _ hat
    · exact fun ⟨_, hat⟩ => h _ hat
  | noRecord hplace h hd hkind =>
    rw [if_neg hplace]
    exact fun ⟨members, hat⟩ => hd members (h.unique hat)
  | noText h hd hkind =>
    rw [if_pos rfl]
    exact fun ⟨commit, _, hat⟩ => hd commit (h.unique hat)
  | empty h =>
    rw [if_pos rfl]
    rintro ⟨commit, hne, hat⟩
    cases h.unique hat
    exact hne rfl

/-- A document fits where a record is that is not the commit. -/
theorem fits_of_record {members : List (String × Json.Document)} (hplace : place ≠ commitPath)
    (h : At document place (.record members)) : Fits document place := by
  rw [Fits, if_neg hplace]
  exact ⟨members, h⟩

section
variable {before after : List (List String)} {value : Option Json.Document}
  (hplaces : places = before ++ place :: after) (hbefore : ∀ place ∈ before, Fits document place)
  (hvalue : ∀ d, At document place d ↔ value = some d)
include hplaces hbefore hvalue

/-- The first place without a record is reported. -/
theorem isAbout_of_noRecord (hplace : place ≠ commitPath)
    (h : expectRecord place value = .error issue) : IsAbout document issue := by
  obtain ⟨hno, rfl⟩ := expectRecord_eq_error_iff.1 h
  have hfault : Fault document place (complaint "object" value) := by
    cases value with
    | none => exact .missing fun d hat => nomatch (hvalue d).1 hat
    | some d =>
      exact .noRecord hplace ((hvalue d).2 rfl) (fun members hd => hno members (hd ▸ rfl))
        (isKind_kindName d)
  exact ⟨⟨before, after, hplaces, hbefore⟩, hfault.not_fits, hfault⟩

/-- A commit that is no text is reported. -/
theorem isAbout_of_noText (hplace : place = commitPath)
    (h : expectText place value = .error issue) : IsAbout document issue := by
  subst hplace
  obtain ⟨hno, rfl⟩ := expectText_eq_error_iff.1 h
  have hfault : Fault document commitPath (complaint "string" value) := by
    cases value with
    | none => exact .missing fun d hat => nomatch (hvalue d).1 hat
    | some d =>
      exact .noText ((hvalue d).2 rfl) (fun text hd => hno text (hd ▸ rfl)) (isKind_kindName d)
  exact ⟨⟨before, after, hplaces, hbefore⟩, hfault.not_fits, hfault⟩

end

/-- A refusal is about the first place that does not fit: the places are looked at in order, each
one in the record that was found before it. -/
theorem isAbout_of_headCommit (h : headCommit document = .error issue) :
    IsAbout document issue := by
  unfold headCommit at h
  rcases Except.bind_eq_error_iff.1 h with h | ⟨event, hevent, h⟩
  · exact isAbout_of_noRecord (List.nil_append _).symm (List.forall_mem_nil _) (by simp)
      (by decide) h
  have hroot : At document [] (.record event) := by simpa [expectRecord_eq_ok_iff] using hevent
  have hfits : ∀ place ∈ [[]], Fits document place :=
    List.forall_mem_singleton.2 (fits_of_record (by decide) hroot)
  rcases Except.bind_eq_error_iff.1 h with h | ⟨request, hrequest, h⟩
  · exact isAbout_of_noRecord rfl hfits (fun _ => hroot.snoc_iff) (by decide) h
  have hrequest := hroot.snoc_iff.2 (expectRecord_eq_ok_iff.1 hrequest)
  have hfits : ∀ place ∈ [[], ["pull_request"]], Fits document place :=
    List.forall_mem_append.2
      ⟨hfits, List.forall_mem_singleton.2 (fits_of_record (by decide) hrequest)⟩
  rcases Except.bind_eq_error_iff.1 h with h | ⟨head, hhead, h⟩
  · exact isAbout_of_noRecord rfl hfits (fun _ => hrequest.snoc_iff) (by decide) h
  have hhead := hrequest.snoc_iff.2 (expectRecord_eq_ok_iff.1 hhead)
  have hfits : ∀ place ∈ [[], ["pull_request"], ["pull_request", "head"]],
      Fits document place := List.forall_mem_append.2
        ⟨hfits, List.forall_mem_singleton.2 (fits_of_record (by decide) hhead)⟩
  rcases Except.bind_eq_error_iff.1 h with h | ⟨commit, hcommit, h⟩
  · exact isAbout_of_noText rfl hfits (fun _ => hhead.snoc_iff) rfl h
  have hcommit : At document commitPath (.text commit) :=
    hhead.snoc_iff.2 (expectText_eq_ok_iff.1 hcommit)
  split_ifs at h with hempty
  cases h
  subst hempty
  exact ⟨⟨_, [], rfl, hfits⟩, (Fault.empty hcommit).not_fits, .empty hcommit⟩

/-- A document names the text at the path of the commit. -/
theorem names_iff {commit : List UInt16} :
    Names document commit ↔ At document commitPath (.text commit) := by
  simp only [Names, commitPath, at_cons_iff, at_nil_iff]
  constructor
  · rintro ⟨event, request, head, hdocument, hrequest, hhead, hcommit⟩
    exact ⟨event, _, hdocument, hrequest, request, _, rfl, hhead, head, _, rfl, hcommit, rfl⟩
  · rintro ⟨event, _, hdocument, hrequest, request, _, rfl, hhead, head, _, rfl, hcommit, rfl⟩
    exact ⟨event, request, head, hdocument, hrequest, hhead, hcommit⟩

/-- A text that begins with a byte order mark is no document. -/
theorem read?_byteOrderMark (rest : String) : Json.read? ("\ufeff" ++ rest) = none := by
  have hvalue : ∀ fuel chars, Json.readValue? (fuel + 1) ('\ufeff' :: chars) = none := by
    intro fuel chars
    rw [Json.readValue?, Json.skip_of_head (by decide)]
    rfl
  have hchars : ("\ufeff" ++ rest).toList = '\ufeff' :: rest.toList := String.toList_append
  rw [Json.read?, hchars, hvalue]
  rfl

/-- The text of an event that is a document of the grammar gives the commit at its place exactly, if
there is a text that is not empty, and is refused with a single issue about the first place that
does not fit otherwise; the message shows this place and what is wrong there. A text that is no
document is malformed, also when it is one after a byte order mark, and the message goes on with
what the reader says about it. -/
theorem parse_takesCommit (text : String) :
    (∀ commit, parse text = .ok commit ↔ ∃ document, Json.Spells text.toList (.element document) ∧
      At document commitPath (.text commit) ∧ commit ≠ []) ∧
    (∀ document, Json.Spells text.toList (.element document) →
      (¬∃ commit, At document commitPath (.text commit) ∧ commit ≠ []) →
      ∃ issue, parse text = .error (.incomplete issue) ∧ IsAbout document issue ∧
        ∃ place words, (issue.path, place) ∈ placeNames ∧ issue.complaint.Says words ∧
          ∀ explain, (EventError.incomplete issue).message explain =
            "Event payload is missing the pull request head: " ++ place ++ ": " ++ words) ∧
    (parse text = .error (.malformed text) ↔
      ∀ document, ¬Json.Spells text.toList (.element document)) ∧
    (∀ explain, (EventError.malformed text).message explain =
      "Invalid JSON in event payload: " ++ explain.json text) ∧
    ∀ rest, text = "\ufeff" ++ rest → parse text = .error (.malformed text) := by
  simp only [← Json.read?_eq_some_iff, ← names_iff]
  refine ⟨fun commit => parse_eq_ok_iff, fun document hread hno => ?_, ?_, fun _ => rfl, ?_⟩
  · have herror : ∃ issue, headCommit document = .error issue := by
      cases hcommit : headCommit document with
      | ok commit => exact absurd ⟨commit, headCommit_eq_ok_iff.1 hcommit⟩ hno
      | error issue => exact ⟨issue, rfl⟩
    obtain ⟨issue, hissue⟩ := herror
    have habout := isAbout_of_headCommit hissue
    obtain ⟨place, words, hplace, hwords, hmessage⟩ := habout.shown
    refine ⟨issue, ?_, habout, place, words, hplace, hwords, fun explain => ?_⟩
    · simp only [parse, hread, hissue]
    · have happend : EventError.message explain (.incomplete issue) =
          "Event payload is missing the pull request head: " ++ issue.message := rfl
      rw [happend, hmessage]
      generalize "Event payload is missing the pull request head: " = front
      rw [String.append_assoc, String.append_assoc, String.append_assoc]
  · unfold parse
    cases Json.read? text with
    | none => simp
    | some document => cases hcommit : headCommit document <;> simp [hcommit]
  · rintro rest rfl
    rw [parse, read?_byteOrderMark]

/-- An event that gives its commit twice, once as a number and once with an escaped name. -/
def repeatedCommit : String :=
  "\x7b\"action\": null, \"pull_request\": \x7b\"head\": " ++
    "\x7b\"sha\": 1, \"s\\u0068a\": \"abc\"\x7d\x7d\x7d"

/-- An event with a list in place of the head. -/
def headless : String := "\x7b\"pull_request\": \x7b\"head\": [\"abc\"]\x7d\x7d"

/-- An event whose commit is a surrogate without its partner. -/
def surrogateCommit : String :=
  "\x7b\"pull_request\": \x7b\"head\": \x7b\"sha\": \"\\ud800\"\x7d\x7d\x7d"

/-- The second of the commits is taken, the surrogate stays what it is, the list is reported, and a
byte order mark is refused. -/
theorem parse_takesCommit_repeated :
    (∃ document, Json.Spells repeatedCommit.toList (.element document) ∧
      At document commitPath (.text (Utf16.units "abc"))) ∧
    (∃ document, Json.Spells surrogateCommit.toList (.element document) ∧
      At document commitPath (.text [0xd800])) ∧
    (∃ document, Json.Spells headless.toList (.element document) ∧
      IsAbout document ⟨["pull_request", "head"], .wrongKind "object" "array"⟩) ∧
    parse ("\ufeff" ++ repeatedCommit) = .error (.malformed ("\ufeff" ++ repeatedCommit)) := by
  obtain ⟨document, hspells, hat, -⟩ :=
    ((parse_takesCommit repeatedCommit).1 (Utf16.units "abc")).1 (by decide +kernel)
  obtain ⟨alone, halone, hunit, -⟩ :=
    ((parse_takesCommit surrogateCommit).1 [0xd800]).1 (by decide +kernel)
  have hheadless : parse headless =
      .error (.incomplete ⟨["pull_request", "head"], .wrongKind "object" "array"⟩) := by
    decide +kernel
  obtain ⟨hok, hissue, hmalformed, -⟩ := parse_takesCommit headless
  obtain ⟨document', hspells'⟩ : ∃ document', Json.Spells headless.toList (.element document') := by
    by_contra hnone
    cases hheadless.symm.trans (hmalformed.2 (not_exists.1 hnone))
  obtain ⟨issue, hparse, habout, -⟩ := hissue document' hspells' fun ⟨commit, hcommit⟩ => by
    cases hheadless.symm.trans ((hok commit).2 ⟨document', hspells', hcommit⟩)
  cases hheadless.symm.trans hparse
  exact ⟨⟨document, hspells, hat⟩, ⟨alone, halone, hunit⟩, ⟨document', hspells', habout⟩,
    (parse_takesCommit _).2.2.2.2 _ rfl⟩

end Event

end BenchGate
