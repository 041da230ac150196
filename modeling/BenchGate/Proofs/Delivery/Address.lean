import BenchGate.Proofs.Config.Schema
import BenchGate.Proofs.Delivery.Request
import BenchGate.Proofs.Text.Percent

/-!
# Addresses for comments

The address for comments is put together from four parts: a base without slashes at its end, the two
names of a repository, and the pull request as one percent-encoded segment. `Address.IsFor` says
what each part is made of. Only the base may hold slashes, so that the other parts can be read off
the address again (`Address.IsFor.eq_of_url_eq`). Whatever characters an accepted repository and a
pull request are made of, they keep to their own segments (`Channel.commentsUrl_keepsSegments`).
-/

namespace BenchGate

/-! ## Bases -/

/-- A run of slashes. -/
def slashes (n : ℕ) : String := .ofList (List.replicate n '/')

/-- A base is an address without the slashes at its end. -/
structure IsBase (base apiUrl : String) : Prop where
  eq_append : ∃ n, apiUrl = base ++ slashes n
  not_slash : ∀ h : base.toList ≠ [], base.toList.getLast h ≠ '/'

namespace Channel

variable {base apiUrl : String}

theorem toList_baseUrl (apiUrl : String) :
    (baseUrl apiUrl).toList = apiUrl.toList.rdropWhile (· = '/') :=
  String.toList_ofList

/-- Slashes at the end of an address are not looked at. -/
theorem baseUrl_append_slashes (apiUrl : String) (n : ℕ) :
    baseUrl (apiUrl ++ slashes n) = baseUrl apiUrl := by
  have hall : ∀ c ∈ List.replicate n '/', decide (c = '/') = true := by
    intro c hc
    exact decide_eq_true (List.eq_of_mem_replicate hc)
  rw [baseUrl, baseUrl, slashes, String.toList_append, String.toList_ofList, List.reverse_append,
    List.reverse_replicate, List.dropWhile_append_of_pos hall]

/-- What the base of an address leaves out is slashes. -/
theorem isBase_baseUrl (apiUrl : String) : IsBase (baseUrl apiUrl) apiUrl := by
  have hdropped : ∀ c ∈ apiUrl.toList.rtakeWhile (· = '/'), c = '/' := by
    intro c hc
    simpa using List.mem_rtakeWhile_imp hc
  constructor
  case eq_append =>
    refine ⟨(apiUrl.toList.rtakeWhile (· = '/')).length, String.toList_inj.1 ?_⟩
    rw [String.toList_append, toList_baseUrl, slashes, String.toList_ofList,
      ← List.eq_replicate_iff.2 ⟨rfl, hdropped⟩, List.rdropWhile_append_rtakeWhile]
  case not_slash =>
    rw [toList_baseUrl]
    intro h
    simpa using List.rdropWhile_last_not _ _ h

/-- An address has one base. -/
theorem baseUrl_eq_of_isBase (h : IsBase base apiUrl) : baseUrl apiUrl = base := by
  obtain ⟨⟨n, rfl⟩, hlast⟩ := h
  rw [baseUrl_append_slashes, ← String.toList_inj, toList_baseUrl, List.rdropWhile_eq_self_iff]
  simpa using hlast

end Channel

/-! ## Parts -/

/-- The parts of an address for comments. -/
structure Address where
  base : String
  owner : String
  name : String
  segment : String

namespace Address

/-- The address with these parts. -/
def url (a : Address) : String :=
  a.base ++ "/repos/" ++ a.owner ++ "/" ++ a.name ++ "/issues/" ++ a.segment ++ "/comments"

/-- A name of an owner or of a repository: ASCII letters, digits, `_`, `.` and `-`, and at least one
of them. -/
structure IsName (name : String) : Prop where
  ne_empty : name ≠ ""
  isNameChar : ∀ c ∈ name.toList, Repository.isNameChar c = true

/-- The parts are those of the address for a pull request of a repository. -/
structure IsFor (a : Address) (apiUrl repository pullRequest : String) : Prop where
  base : IsBase a.base apiUrl
  repository : repository = a.owner ++ "/" ++ a.name
  owner : IsName a.owner
  name : IsName a.name
  segment : Percent.Encodes a.segment.toList (Utf8.encode pullRequest)

variable {a a' : Address} {apiUrl repository repository' pullRequest pullRequest' name : String}

theorem IsName.slash_not_mem (h : IsName name) : '/' ∉ name.toList :=
  fun hmem => absurd (h.isNameChar '/' hmem) (by decide)

/-- The two names of an accepted repository. -/
theorem exists_names (h : Repository.isName repository = true) :
    ∃ owner name, repository = owner ++ "/" ++ name ∧ IsName owner ∧ IsName name := by
  obtain ⟨owner, name, htext, howner, hname, hall⟩ := Repository.isName_iff.1 h
  simp only [← Repository.isNameChar_iff] at hall
  obtain ⟨hall, hall'⟩ := List.forall_mem_append.1 hall
  refine ⟨.ofList owner, .ofList name, ?_, ⟨?_, ?_⟩, ⟨?_, ?_⟩⟩
  · rw [← String.toList_inj, htext]
    simp
  · simpa using howner
  · simpa using hall
  · simpa using hname
  · simpa using hall'

/-- A segment stands for one text. -/
theorem pullRequest_eq {segment : String}
    (h : Percent.Encodes segment.toList (Utf8.encode pullRequest)) :
    Percent.decode segment = pullRequest := by
  rw [Percent.decode, h.decodeBytes_eq, Utf8.decode_encode]

/-- A text is cut at its first mark in one way. -/
theorem eq_and_eq_of_append_cons_eq {mark : Char} {front front' rest rest' : List Char}
    (hfront : mark ∉ front) (hfront' : mark ∉ front')
    (h : front ++ mark :: rest = front' ++ mark :: rest') : front = front' ∧ rest = rest' := by
  have hspan : ∀ front rest : List Char, mark ∉ front →
      (front ++ mark :: rest).span (fun c => decide (c ≠ mark)) = (front, mark :: rest) := by
    intro front rest hmem
    refine List.span_append_of_head (fun c hc => decide_eq_true ?_) ?_
    · rintro rfl
      exact hmem hc
    · simp
  have hcut := hspan front rest hfront
  rw [h, hspan front' rest' hfront'] at hcut
  obtain ⟨hfronts, hrests⟩ := Prod.mk.inj hcut
  exact ⟨hfronts.symm, (List.cons_inj_right mark).1 hrests.symm⟩

/-- One address is for one pull request of one repository. Both sides are cut at the slashes: those
of the base and of the last segment are known, and no name has any. -/
theorem IsFor.eq_of_url_eq (h : a.IsFor apiUrl repository pullRequest)
    (h' : a'.IsFor apiUrl repository' pullRequest') (hurl : a.url = a'.url) :
    repository = repository' ∧ pullRequest = pullRequest' := by
  have hbase : a.base = a'.base := by
    rw [← Channel.baseUrl_eq_of_isBase h.base, Channel.baseUrl_eq_of_isBase h'.base]
  have hlist := congrArg String.toList hurl
  simp only [url, hbase, String.toList_append, List.append_assoc,
    List.append_cancel_left_eq] at hlist
  obtain ⟨howner, hlist⟩ :=
    eq_and_eq_of_append_cons_eq h.owner.slash_not_mem h'.owner.slash_not_mem hlist
  obtain ⟨hname, hlist⟩ :=
    eq_and_eq_of_append_cons_eq h.name.slash_not_mem h'.name.slash_not_mem hlist
  have hsegment : a.segment = a'.segment := by
    rw [← String.toList_inj]
    exact List.append_cancel_right (List.append_cancel_left hlist)
  constructor
  · rw [h.repository, h'.repository, String.toList_inj.1 howner, String.toList_inj.1 hname]
  · rw [← pullRequest_eq h.segment, ← pullRequest_eq h'.segment, hsegment]

/-- No mark that ends a segment, and no blank, is in the segment of a pull request. -/
theorem IsFor.not_mem_segment (h : a.IsFor apiUrl repository pullRequest) :
    ∀ mark ∈ ['/', '?', '#', ' '], mark ∉ a.segment.toList := by
  intro mark hmark
  simp only [List.mem_cons, List.not_mem_nil, or_false] at hmark
  rcases hmark with rfl | rfl | rfl | rfl <;>
    exact h.segment.not_mem (by decide) (by decide) (by decide)

end Address

namespace Channel

open Address

/-- The address that a channel uses has the parts it should. -/
theorem exists_isFor {s : Settings} {c : Channel} (h : create s = .ok c) (pullRequest : String) :
    ∃ a : Address, c.commentsUrl pullRequest = a.url ∧
      a.IsFor (s.apiUrl.getD ({} : GitHub).apiUrl) s.repository pullRequest := by
  obtain ⟨-, hname, rfl⟩ := create_eq_ok_iff.1 h
  obtain ⟨owner, name, hrepository, howner, hname⟩ := exists_names hname
  refine ⟨⟨baseUrl (s.apiUrl.getD ({} : GitHub).apiUrl), owner, name, Percent.encode pullRequest⟩,
    ?_, ⟨isBase_baseUrl _, hrepository, howner, hname, Percent.encodes_encode pullRequest⟩⟩
  simp only [commentsUrl, url, hrepository, String.append_assoc]

/-- The repository and the pull request keep to their segments of the address: every accepted
channel posts to an address of the right parts, the pull request can be read off its segment, which
nothing in it can end, other repositories and pull requests have other addresses, and slashes at the
end of the address of the service change nothing. -/
theorem commentsUrl_keepsSegments {s : Settings} {c : Channel} (h : create s = .ok c)
    (pullRequest : String) :
    (∃ a : Address, c.commentsUrl pullRequest = a.url ∧
      a.IsFor (s.apiUrl.getD ({} : GitHub).apiUrl) s.repository pullRequest ∧
      Percent.decode a.segment = pullRequest ∧
      ∀ mark ∈ ['/', '?', '#', ' '], mark ∉ a.segment.toList) ∧
    (∀ (s' : Settings) (c' : Channel) (pullRequest' : String), create s' = .ok c' →
      s'.apiUrl.getD ({} : GitHub).apiUrl = s.apiUrl.getD ({} : GitHub).apiUrl →
      c'.commentsUrl pullRequest' = c.commentsUrl pullRequest →
      s'.repository = s.repository ∧ pullRequest' = pullRequest) ∧
    ∀ n, ∃ c', create
        { s with apiUrl := some (s.apiUrl.getD ({} : GitHub).apiUrl ++ slashes n) } = .ok c' ∧
      c'.commentsUrl pullRequest = c.commentsUrl pullRequest := by
  obtain ⟨a, hurl, ha⟩ := exists_isFor h pullRequest
  refine ⟨⟨a, hurl, ha, pullRequest_eq ha.segment, ha.not_mem_segment⟩, ?_, ?_⟩
  · intro s' c' pullRequest' h' hapi hsame
    obtain ⟨a', hurl', ha'⟩ := exists_isFor h' pullRequest'
    rw [hapi] at ha'
    exact ha'.eq_of_url_eq ha (hurl'.symm.trans (hsame.trans hurl))
  · intro n
    obtain ⟨htoken, hname, rfl⟩ := create_eq_ok_iff.1 h
    refine ⟨_, create_eq_ok_iff.2 ⟨htoken, hname, rfl⟩, ?_⟩
    simp only [commentsUrl, Option.getD_some, baseUrl_append_slashes]

/-- Settings with slashes at the end of their address. -/
def slashedSettings : Settings where
  token := "t"
  repository := "o.k/r-1"
  apiUrl := some "https://h/v3//"

/-- A pull request of slashes and more keeps to its segment there, as written and as read. -/
theorem commentsUrl_keepsSegments_reserved :
    ∃ (c : Channel) (a : Address), create slashedSettings = .ok c ∧
      c.commentsUrl "../é?😀 #" = a.url ∧ a.IsFor "https://h/v3//" "o.k/r-1" "../é?😀 #" ∧
      a.url = "https://h/v3/repos/o.k/r-1/issues/..%2F%C3%A9%3F%F0%9F%98%80%20%23/comments" ∧
      Percent.decode a.segment = "../é?😀 #" := by
  obtain ⟨c, hc⟩ : ∃ c, create slashedSettings = .ok c := ⟨_, rfl⟩
  obtain ⟨⟨a, hurl, ha, hdecode, -⟩, -, -⟩ := commentsUrl_keepsSegments hc "../é?😀 #"
  refine ⟨c, a, hc, hurl, ha, ?_, hdecode⟩
  obtain ⟨-, -, rfl⟩ := create_eq_ok_iff.1 hc
  rw [← hurl]
  decide +kernel

end Channel

end BenchGate
