import BenchGate.Proofs.Delivery.Address
import BenchGate.Proofs.Url.DotSegments

/-!
# Where a comment is sent

The names of a repository may hold dots, and percent-encoding leaves them in a pull request, so that
`.` and `..` are accepted in all three places. The path of an address is resolved before a request
is sent. `Channel.commentsUrl_resolves` says that the request arrives at the comments of the pull
request exactly if neither the names nor the pull request are such dots, and that it otherwise
leaves the base by one segment at most.
-/

namespace BenchGate

/-- A text of unreserved characters is its own segment. -/
theorem Percent.encode_of_isUnreserved {text : String}
    (h : ∀ c ∈ text.toList, isUnreserved c = true) : encode text = text := by
  have hchar : ∀ c ∈ text.toList, encodeChar c = [c] := fun c hc => if_pos (h c hc)
  rw [encode, List.flatMap_congr hchar, List.flatMap_singleton', String.ofList_toList]

/-- A name is its own segment. -/
theorem Address.IsName.encode_eq {name : String} (h : IsName name) :
    Percent.encode name = name := by
  refine Percent.encode_of_isUnreserved fun c hc => ?_
  have hname := h.isNameChar c hc
  simp only [Repository.isNameChar, Bool.or_eq_true, decide_eq_true_eq] at hname
  simp only [Percent.isUnreserved, Bool.or_eq_true, decide_eq_true_eq, List.mem_cons]
  tauto

/-- A repository has one owner and one name. -/
theorem Address.IsName.eq_of_append_eq {owner name owner' name' : String} (howner : IsName owner)
    (howner' : IsName owner') (h : owner ++ "/" ++ name = owner' ++ "/" ++ name') :
    owner = owner' ∧ name = name' := by
  have hlist := congrArg String.toList h
  simp only [String.toList_append, List.append_assoc] at hlist
  obtain ⟨hfront, hrest⟩ :=
    eq_and_eq_of_append_cons_eq howner.slash_not_mem howner'.slash_not_mem hlist
  exact ⟨String.toList_inj.1 hfront, String.toList_inj.1 hrest⟩

namespace Channel

open Address

/-- What the path to the comments of a pull request is made of. -/
def commentParts (owner name pullRequest : String) : List String :=
  ["repos", owner, name, "issues", pullRequest, "comments"]

/-- The segments that a channel adds to its base. -/
def commentSegments (owner name pullRequest : String) : List String :=
  commentParts owner name (Percent.encode pullRequest)

/-- The path that a channel adds to its base. -/
def commentPath (owner name pullRequest : String) : String :=
  Url.pathText (commentSegments owner name pullRequest)

section
variable {owner name pullRequest : String}

/-- Each part is encoded on its own. -/
theorem commentSegments_eq_map (howner : IsName owner) (hname : IsName name) :
    commentSegments owner name pullRequest =
      (commentParts owner name pullRequest).map Percent.encode := by
  have hfixed : Percent.encode "repos" = "repos" ∧ Percent.encode "issues" = "issues" ∧
      Percent.encode "comments" = "comments" := by
    decide +kernel
  obtain ⟨hrepos, hissues, hcomments⟩ := hfixed
  simp only [commentSegments, commentParts, List.map_cons, List.map_nil, howner.encode_eq,
    hname.encode_eq, hrepos, hissues, hcomments]

/-- No part ends its segment. -/
theorem slash_not_mem_commentSegments (howner : IsName owner) (hname : IsName name) :
    ∀ segment ∈ commentSegments owner name pullRequest, '/' ∉ segment.toList := by
  rw [commentSegments_eq_map howner hname]
  intro segment hmem
  obtain ⟨part, -, rfl⟩ := List.mem_map.1 hmem
  exact (Percent.encodes_encode part).not_mem (by decide) (by decide) (by decide)

theorem segments_append_commentPath (howner : IsName owner) (hname : IsName name) (path : String) :
    Url.segments (path ++ commentPath owner name pullRequest) =
      Url.segments path ++ commentSegments owner name pullRequest :=
  Url.segments_append_pathText (slash_not_mem_commentSegments howner hname) path

/-- The words that every path to comments has are no dots. -/
theorem exists_isDots_commentParts : (∃ part ∈ commentParts owner name pullRequest,
    Url.IsDots part) ↔ ∃ part ∈ [owner, name, pullRequest], Url.IsDots part := by
  have hwords : ¬Url.IsDots "repos" ∧ ¬Url.IsDots "issues" ∧ ¬Url.IsDots "comments" := by
    decide
  simp only [commentParts, List.mem_cons, List.not_mem_nil, or_false, exists_eq_or_imp,
    exists_eq_left, hwords, false_or]

/-- The segments stay below a base exactly if no part is dots. -/
theorem resolve_commentSegments_eq_iff (howner : IsName owner) (hname : IsName name)
    (front : List String) :
    Url.resolve (front ++ commentSegments owner name pullRequest) =
        Url.directory front ++ commentSegments owner name pullRequest ↔
      ∀ part ∈ [owner, name, pullRequest], ¬Url.IsDots part := by
  have hdots : (∀ segment ∈ commentSegments owner name pullRequest, Url.isDot segment = false) ↔
      ¬∃ part ∈ commentParts owner name pullRequest, Url.IsDots part := by
    rw [commentSegments_eq_map howner hname]
    simp only [List.forall_mem_map, ← Bool.not_eq_true, Url.isDot_encode_iff, not_exists, not_and]
  rw [Url.resolve_append_eq_iff (by simp [commentSegments, commentParts]), hdots,
    exists_isDots_commentParts]
  simp only [not_exists, not_and]

/-- Wherever the segments lead from a base, they go back by one segment at most. -/
theorem dropLast_directory_prefix_resolve (front : List String) :
    (Url.directory front).dropLast <+:
      Url.resolve (front ++ commentSegments owner name pullRequest) ∧
    (Url.resolve (front ++ commentSegments owner name pullRequest)).getLast? =
      some "comments" := by
  have hwords : Url.isDot "repos" = false ∧ Url.isDot "issues" = false ∧
      Url.isDot "comments" = false := by
    decide
  obtain ⟨hrepos, hissues, hcomments⟩ := hwords
  set base := front.foldl Url.keep [] with hbase
  set names := Url.keep (Url.keep ("repos" :: base) owner) name with hnames
  set numbered := Url.keep ("issues" :: names) (Percent.encode pullRequest) with hnumbered
  have hresolve : Url.resolve (front ++ commentSegments owner name pullRequest) =
      ("comments" :: numbered).reverse := by
    have hlast : (front ++ commentSegments owner name pullRequest).getLast? =
        some "comments" := by
      simp [commentSegments, commentParts]
    rw [Url.resolve, hlast, Option.any_some, hcomments, Url.directory, List.foldl_append, ← hbase]
    simp only [commentSegments, commentParts, List.foldl_cons, List.foldl_nil,
      Url.keep_of_not_isDot hrepos, Url.keep_of_not_isDot hissues,
      Url.keep_of_not_isDot hcomments, ← hnames, ← hnumbered]
    exact List.append_nil _
  -- the owner can take away `repos` and the pull request `issues`: only the name is left for the
  -- base
  have howner : ("repos" :: base).tail <:+ Url.keep ("repos" :: base) owner :=
    Url.tail_suffix_keep List.suffix_rfl
  have hname : base.tail <:+ names := Url.tail_suffix_keep howner
  have hnumber : ("issues" :: names).tail <:+ numbered := Url.tail_suffix_keep List.suffix_rfl
  have hall : base.tail <:+ "comments" :: numbered :=
    (hname.trans hnumber).trans (List.suffix_cons _ _)
  rw [hresolve]
  constructor
  · rw [Url.directory, ← hbase, List.dropLast_reverse]
    exact List.reverse_prefix.2 hall
  · simp

end

/-- A comment is sent to the comments of its pull request, below the base of the channel, exactly if
neither the names of the repository nor the pull request are `.` or `..`; an accepted channel may
have them. Whatever they are, the path that the channel adds has them as segments of their own, and
what it leads to from the path of a base ends in `comments` and keeps all of the base but its last
segment at most. -/
theorem commentsUrl_resolves {s : Settings} {c : Channel} (h : create s = .ok c) :
    ∃ owner name, s.repository = owner ++ "/" ++ name ∧ IsName owner ∧ IsName name ∧
      ∀ pullRequest,
        c.commentsUrl pullRequest = baseUrl c.apiUrl ++ commentPath owner name pullRequest ∧
        Url.segments (commentPath owner name pullRequest) =
          commentSegments owner name pullRequest ∧
        ((∃ segment ∈ commentSegments owner name pullRequest, Url.IsDots segment) ↔
          ∃ part ∈ [owner, name, pullRequest], Url.IsDots part) ∧
        ∀ path,
          (Url.destination (path ++ commentPath owner name pullRequest) =
              Url.directory (Url.segments path) ++ commentSegments owner name pullRequest ↔
            ∀ part ∈ [owner, name, pullRequest], ¬Url.IsDots part) ∧
          (Url.directory (Url.segments path)).dropLast <+:
            Url.destination (path ++ commentPath owner name pullRequest) ∧
          (Url.destination (path ++ commentPath owner name pullRequest)).getLast? =
            some "comments" := by
  obtain ⟨-, hrepository, rfl⟩ := create_eq_ok_iff.1 h
  obtain ⟨owner, name, hrepository, howner, hname⟩ := exists_names hrepository
  refine ⟨owner, name, hrepository, howner, hname, fun pullRequest => ⟨?_, ?_, ?_, fun path => ?_⟩⟩
  · rw [commentsUrl, hrepository, ← String.toList_inj]
    simp [commentPath, Url.pathText, commentSegments, commentParts]
  · have hsegments : Url.segments ("" ++ commentPath owner name pullRequest) = _ :=
      segments_append_commentPath howner hname ""
    rwa [String.empty_append, Url.segments_empty, List.nil_append] at hsegments
  · rw [← exists_isDots_commentParts, commentSegments_eq_map howner hname]
    simp only [List.mem_map, exists_exists_and_eq_and, Url.isDots_encode_iff]
  · rw [Url.destination, segments_append_commentPath howner hname]
    exact ⟨resolve_commentSegments_eq_iff howner hname _, dropLast_directory_prefix_resolve _⟩

/-- Settings for a repository at the usual service. -/
def settingsFor (repository : String) : Settings where
  token := "t"
  repository := repository

/-- A name that begins with a dot is none of those. For such a repository the pull request `7` is
arrived at, and `..` is not. -/
theorem commentsUrl_resolves_hidden :
    ∃ c, create (settingsFor "acme/.github") = .ok c ∧
      c.commentsUrl "7" = "https://api.github.com" ++ commentPath "acme" ".github" "7" ∧
      Url.destination ("/v3" ++ commentPath "acme" ".github" "7") =
        ["v3", "repos", "acme", ".github", "issues", "7", "comments"] ∧
      c.commentsUrl ".." = "https://api.github.com" ++ commentPath "acme" ".github" ".." ∧
      Url.destination ("/v3" ++ commentPath "acme" ".github" "..") ≠
        ["v3", "repos", "acme", ".github", "issues", "..", "comments"] := by
  have hacme : IsName "acme" := ⟨by decide, List.all_eq_true.1 (by decide)⟩
  have hbase : baseUrl "https://api.github.com" = "https://api.github.com" := by decide +kernel
  have hdirectory : Url.directory (Url.segments "/v3") = ["v3"] := by decide +kernel
  have hencoded : Percent.encode "7" = "7" ∧ Percent.encode ".." = ".." := by decide +kernel
  obtain ⟨c, hc⟩ : ∃ c, create (settingsFor "acme/.github") = .ok c := ⟨_, rfl⟩
  obtain ⟨owner, name, hrepository, howner, -, hall⟩ := commentsUrl_resolves hc
  have hnames : owner ++ "/" ++ name = "acme" ++ "/" ++ ".github" := hrepository.symm
  obtain ⟨rfl, rfl⟩ := howner.eq_of_append_eq hacme hnames
  obtain ⟨-, -, rfl⟩ := create_eq_ok_iff.1 hc
  obtain ⟨hseven, -, -, hpath⟩ := hall "7"
  obtain ⟨hup, -, -, hupPath⟩ := hall ".."
  refine ⟨_, hc, hseven.trans (congrArg (· ++ _) hbase), ((hpath "/v3").1.2 (by decide)).trans ?_,
    hup.trans (congrArg (· ++ _) hbase), fun hsame => ?_⟩
  · rw [hdirectory, commentSegments, hencoded.1]
    rfl
  · refine absurd ((hupPath "/v3").1.1 (hsame.trans ?_)) (by decide)
    rw [hdirectory, commentSegments, hencoded.2]
    rfl

/-- A repository of nothing but dots is accepted, and so is such a pull request. Requests for them
arrive elsewhere. -/
theorem commentsUrl_leavesRepository :
    (∃ c, create (settingsFor "../..") = .ok c ∧
      c.commentsUrl "1" = "https://api.github.com" ++ "/repos/../../issues/1/comments" ∧
      Url.destination "/repos/../../issues/1/comments" = ["issues", "1", "comments"]) ∧
    ∃ c, create (settingsFor "acme/bench") = .ok c ∧
      c.commentsUrl ".." = "https://api.github.com" ++ "/repos/acme/bench/issues/../comments" ∧
      Url.destination "/repos/acme/bench/issues/../comments" =
        ["repos", "acme", "bench", "comments"] :=
  ⟨⟨_, rfl, by decide +kernel, by decide +kernel⟩, _, rfl, by decide +kernel, by decide +kernel⟩

end Channel

end BenchGate
