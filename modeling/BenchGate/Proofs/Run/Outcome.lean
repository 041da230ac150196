import BenchGate.Proofs.Json.Document
import BenchGate.Proofs.Result
import BenchGate.Proofs.Text.Utf8
import BenchGate.Run.Job

/-!
# Files of outcomes read back

The file of an outcome is one document and a line feed, and reading it gives back every field of the
outcome (`Outcome.filed`): numbers exactly, with null for what is no finite number and zero without
its sign. Two outcomes have one file exactly when they are alike in all these fields
(`Outcome.document_reads_back`).
-/

namespace BenchGate

/-! ## What a file says -/

/-- A number in a file that was read. -/
def Datum.ofNumber (x : Float) : Json.Document := if x.isFinite then .number x.readBack else .null

/-- The members of a comparison in a file that was read. -/
def Comparison.filed (c : Comparison) : List (String × Json.Document) :=
  [("index", .ofNumber c.index), ("baseline", .ofNumber c.baseline),
    ("latest", .ofNumber c.latest), ("ratio", .ofNumber c.ratio)]

/-- The members of a summary in a file that was read. -/
def Summary.filed (s : Summary) : List (String × Json.Document) :=
  [("count", .ofNumber s.count), ("totalBaseline", .ofNumber s.totalBaseline),
    ("totalLatest", .ofNumber s.totalLatest), ("meanRatio", .ofNumber s.meanRatio),
    ("minRatio", .ofNumber s.minRatio), ("maxRatio", .ofNumber s.maxRatio)]

/-- The members of a classification in a file that was read. -/
def Classification.filed (c : Classification) : List (String × Json.Document) :=
  [("index", .ofNumber c.index), ("kind", Json.ofText c.kind.word),
    ("percent", .ofNumber c.percent), ("message", c.message.elim .null Json.ofText)]

/-- The members of a reason in a file that was read. -/
def Objection.filed : Objection → List (String × Json.Document)
  | regression count => [("kind", Json.ofText "regression"), ("count", .ofNumber count)]
  | aggregate meanRatio threshold =>
    [("kind", Json.ofText "aggregate_regression"), ("meanRatio", .ofNumber meanRatio),
      ("threshold", .ofNumber threshold)]

/-- The members of an outcome in a file that was read. -/
def Outcome.filed (order : MemberOrder) (o : Outcome) : List (String × Json.Document) :=
  [("passed", .bool o.verdict.passed),
    ("failures", .list (o.verdict.failures.map fun x => order.arrange x.filed)),
    ("summary", order.arrange o.summary.filed),
    ("records", .list (o.comparisons.map fun x => order.arrange x.filed)),
    ("classifications",
      .list (o.findings.classifications.map fun x => order.arrange x.filed)),
    ("report", o.report.elim .null Json.ofText),
    ("commented", .bool o.commented)]

/-- The order of members stays when a record is read back. -/
theorem MemberOrder.readBack_arrange (order : MemberOrder)
    (members : List (String × Json.Document)) :
    (order.arrange members).readBack = order.arrange (Datum.membersBack members) := by
  cases order with
  | declared => rfl
  | byName =>
    rw [arrange, arrange, Datum.readBack, Datum.membersBack_eq_map, Datum.membersBack_eq_map]
    exact congrArg Datum.record (List.map_mergeSort fun _ _ _ _ => rfl)

theorem Json.readBack_ofText? (text : Option String) :
    (ofText? text).readBack = text.elim .null Json.ofText := by
  cases text <;> rfl

theorem Comparison.membersBack (c : Comparison) : Datum.membersBack c.members = c.filed := rfl

theorem Summary.membersBack (s : Summary) : Datum.membersBack s.members = s.filed := rfl

theorem Objection.membersBack (x : Objection) : Datum.membersBack x.members = x.filed := by
  cases x <;> rfl

theorem Classification.membersBack (c : Classification) :
    Datum.membersBack c.members = c.filed := by
  simp only [members, Datum.membersBack, Json.readBack_ofText?]
  rfl

/-- What is read from the file of an outcome. -/
theorem Outcome.readBack_toDatum (order : MemberOrder) (o : Outcome) :
    (o.toDatum order).readBack = .record (o.filed order) := by
  simp only [toDatum, filed, Datum.readBack, Datum.membersBack, Datum.itemsBack_eq_map,
    List.map_map, Function.comp_def, MemberOrder.readBack_arrange, Json.readBack_ofText?,
    Comparison.membersBack, Summary.membersBack, Objection.membersBack, Classification.membersBack]

end BenchGate

/-! ## What a file tells apart -/

/-- Two doubles are alike in a file when they are equal as numbers, or both are no finite number. -/
def Float.Alike (x y : Float) : Prop :=
  x.isFinite = true ∧ y.isFinite = true ∧ (x == y) = true ∨ x.isFinite = false ∧ y.isFinite = false

namespace BenchGate

theorem Datum.ofNumber_inj {x y : Float} : ofNumber x = ofNumber y ↔ x.Alike y := by
  unfold ofNumber Float.Alike
  cases hx : x.isFinite <;> cases hy : y.isFinite <;> simp
  exact Float.readBack_eq_iff hx hy

theorem Json.ofText_injective : Function.Injective ofText := fun _ _ h =>
  Utf16.units_injective (Datum.text.inj h)

theorem Json.elim_inj {text text' : Option String} :
    text.elim Datum.null ofText = text'.elim .null ofText ↔ text = text' := by
  have hnull : ∀ text, ofText text ≠ .null := nofun
  cases text <;> cases text' <;> simp [ofText_injective.eq_iff, hnull, (hnull _).symm]

theorem Kind.word_inj {k k' : Kind} : k.word = k'.word ↔ k = k' := by
  cases k <;> cases k' <;> decide

/-- Comparisons that are alike in a file. -/
@[mk_iff]
structure Comparison.Alike (c c' : Comparison) : Prop where
  index : c.index.Alike c'.index
  baseline : c.baseline.Alike c'.baseline
  latest : c.latest.Alike c'.latest
  ratio : c.ratio.Alike c'.ratio

/-- Summaries that are alike in a file. -/
@[mk_iff]
structure Summary.Alike (s s' : Summary) : Prop where
  count : s.count.Alike s'.count
  totalBaseline : s.totalBaseline.Alike s'.totalBaseline
  totalLatest : s.totalLatest.Alike s'.totalLatest
  meanRatio : s.meanRatio.Alike s'.meanRatio
  minRatio : s.minRatio.Alike s'.minRatio
  maxRatio : s.maxRatio.Alike s'.maxRatio

/-- Classifications that are alike in a file. -/
@[mk_iff]
structure Classification.Alike (c c' : Classification) : Prop where
  index : c.index.Alike c'.index
  kind : c.kind = c'.kind
  percent : c.percent.Alike c'.percent
  message : c.message = c'.message

/-- Reasons that are alike in a file. -/
inductive Objection.Alike : Objection → Objection → Prop where
  | regression {count count' : Float} (h : count.Alike count') :
      Alike (.regression count) (.regression count')
  | aggregate {meanRatio meanRatio' threshold threshold' : Float}
      (h : meanRatio.Alike meanRatio') (h' : threshold.Alike threshold') :
      Alike (.aggregate meanRatio threshold) (.aggregate meanRatio' threshold')

/-- Outcomes that are alike in all that their files say. -/
@[mk_iff]
structure Outcome.Alike (o o' : Outcome) : Prop where
  passed : o.verdict.passed = o'.verdict.passed
  failures : List.Forall₂ Objection.Alike o.verdict.failures o'.verdict.failures
  summary : o.summary.Alike o'.summary
  records : List.Forall₂ Comparison.Alike o.comparisons o'.comparisons
  classifications : List.Forall₂ Classification.Alike o.findings.classifications
    o'.findings.classifications
  report : o.report = o'.report
  commented : o.commented = o'.commented

/-- Records that are the same in an order have the same members. -/
theorem MemberOrder.perm_of_arrange {order : MemberOrder}
    {members members' : List (String × Json.Document)}
    (h : order.arrange members = order.arrange members') : members.Perm members' := by
  cases order with
  | declared => rw [Datum.record.inj h]
  | byName =>
    have hperm := List.mergeSort_perm members fun a b => decide (a.1 ≤ b.1)
    rw [Datum.record.inj h] at hperm
    exact hperm.symm.trans (List.mergeSort_perm members' _)

/-- Records with the same names, all different, are the same when their members are, in any
order. -/
theorem MemberOrder.arrange_inj {order : MemberOrder}
    {members members' : List (String × Json.Document)}
    (names : List String) (h : members.map Prod.fst = names) (h' : members'.map Prod.fst = names)
    (hnodup : names.Nodup) :
    order.arrange members = order.arrange members' ↔ members = members' := by
  refine ⟨fun harrange => ?_, fun heq => heq ▸ rfl⟩
  have hperm := perm_of_arrange harrange
  -- two members of one place have one name, and this name occurs once
  refine List.ext_getElem hperm.length_eq fun i hi hi' => ?_
  rw [← h'] at hnodup
  refine List.inj_on_of_nodup_map hnodup (hperm.mem_iff.1 (List.getElem_mem hi))
    (List.getElem_mem hi') ?_
  have hname := congrArg (·[i]?) (h.trans h'.symm)
  simpa [hi, hi'] using hname

theorem Comparison.filed_inj {order : MemberOrder} {c c' : Comparison} :
    order.arrange c.filed = order.arrange c'.filed ↔ c.Alike c' := by
  rw [MemberOrder.arrange_inj ["index", "baseline", "latest", "ratio"] rfl rfl (by decide)]
  simp [filed, Datum.ofNumber_inj, alike_iff]

theorem Summary.filed_inj {order : MemberOrder} {s s' : Summary} :
    order.arrange s.filed = order.arrange s'.filed ↔ s.Alike s' := by
  rw [MemberOrder.arrange_inj ["count", "totalBaseline", "totalLatest", "meanRatio", "minRatio",
    "maxRatio"] rfl rfl (by decide)]
  simp [filed, Datum.ofNumber_inj, alike_iff]

theorem Classification.filed_inj {order : MemberOrder} {c c' : Classification} :
    order.arrange c.filed = order.arrange c'.filed ↔ c.Alike c' := by
  rw [MemberOrder.arrange_inj ["index", "kind", "percent", "message"] rfl rfl (by decide)]
  simp [filed, Datum.ofNumber_inj, Json.elim_inj, Json.ofText_injective.eq_iff, Kind.word_inj,
    alike_iff]

theorem Objection.filed_inj {order : MemberOrder} {x x' : Objection} :
    order.arrange x.filed = order.arrange x'.filed ↔ x.Alike x' := by
  cases x with
  | regression count =>
    cases x' with
    | regression count' =>
      rw [MemberOrder.arrange_inj ["kind", "count"] rfl rfl (by decide)]
      simp only [filed, List.cons.injEq, Prod.mk.injEq, true_and, and_true, Datum.ofNumber_inj]
      exact ⟨.regression, fun | .regression h => h⟩
    | aggregate meanRatio threshold =>
      refine ⟨fun h => ?_, nofun⟩
      have hlength := (MemberOrder.perm_of_arrange h).length_eq
      cases hlength
  | aggregate meanRatio threshold =>
    cases x' with
    | regression count =>
      refine ⟨fun h => ?_, nofun⟩
      have hlength := (MemberOrder.perm_of_arrange h).length_eq
      cases hlength
    | aggregate meanRatio' threshold' =>
      rw [MemberOrder.arrange_inj ["kind", "meanRatio", "threshold"] rfl rfl (by decide)]
      simp only [filed, List.cons.injEq, Prod.mk.injEq, true_and, and_true, Datum.ofNumber_inj]
      exact ⟨fun h => .aggregate h.1 h.2, fun | .aggregate h h' => ⟨h, h'⟩⟩

/-- Lists of records are the same when their records are alike in pairs. -/
theorem map_arrange_inj {α : Type} {order : MemberOrder} {filed : α → List (String × Json.Document)}
    {R : α → α → Prop} {l l' : List α}
    (h : ∀ {a b}, order.arrange (filed a) = order.arrange (filed b) ↔ R a b) :
    (l.map fun a => order.arrange (filed a)) = (l'.map fun a => order.arrange (filed a)) ↔
      List.Forall₂ R l l' := by
  rw [← List.forall₂_eq_eq_eq, List.forall₂_map_left_iff, List.forall₂_map_right_iff]
  simp only [h]

/-- Two outcomes are read back the same when they are alike. -/
theorem Outcome.filed_inj {order : MemberOrder} {o o' : Outcome} :
    o.filed order = o'.filed order ↔ o.Alike o' := by
  simp only [filed, List.cons.injEq, Prod.mk.injEq, true_and, and_true, Datum.bool.injEq,
    Datum.list.injEq, map_arrange_inj Objection.filed_inj, map_arrange_inj Comparison.filed_inj,
    map_arrange_inj Classification.filed_inj, Summary.filed_inj, Json.elim_inj, alike_iff]

/-! ## The file -/

/-- The file of an outcome is a document and a line feed, and reading it gives back the outcome:
its seven fields and nothing else, with every finite number itself, zero without its sign, and null
for every other number. Two outcomes have one file exactly when they are alike in these fields, and
a file that was saved holds the document. -/
theorem Outcome.document_reads_back (order : MemberOrder) (o : Outcome) :
    (∃ text, o.document order = text ++ "\n" ∧
      Json.read? text = some (.record (o.filed order))) ∧
    Json.read? (o.document order) = some (.record (o.filed order)) ∧
    (∀ o', Utf8.encode (o.document order) = Utf8.encode (o'.document order) ↔ o.Alike o') ∧
    ∀ tree path tree', o.save order tree path = .ok tree' →
      ∃ place content, tree.target path = .ok place ∧
        tree' = tree.set place (.file content) ∧ content = Utf8.encode (o.document order) ∧
        Json.read? (Utf8.decode content) = some (.record (o.filed order)) := by
  have hread : Json.read? (o.document order) = some (.record (o.filed order)) := by
    have hblank : Json.AreBlank "\n".toList := by simp [Json.AreBlank]
    have hread := Json.read?_write_append (.indented 2) (o.toDatum order) hblank
    rwa [readBack_toDatum] at hread
  refine ⟨⟨_, rfl, ?_⟩, hread, fun o' => ?_, fun tree path tree' hsave => ?_⟩
  · rw [Json.read?_write, readBack_toDatum]
  · rw [Utf8.encode_injective.eq_iff, document, document, String.append_left_inj,
      Json.write_eq_write_iff, readBack_toDatum, readBack_toDatum, Datum.record.injEq, filed_inj]
  · obtain ⟨place, hplace, rfl⟩ := Except.map_eq_ok_iff.1 (Except.mapError_eq_ok_iff.1 hsave)
    exact ⟨place, _, hplace, rfl, rfl, by rw [Utf8.decode_encode, hread]⟩

/-- An outcome with numbers that a document does not hold and characters that it escapes. -/
def Outcome.extreme : Outcome where
  comparisons := [⟨0, 5e-324, -0.0, undefinedNumber⟩]
  summary := ⟨1, 1e21, 0.1, infinity, -infinity, 123456789012345680⟩
  findings := ⟨[⟨0, .speedup, -12.5, some "\"\\\u0007🔥"⟩, ⟨1, .withinNoise, 0, none⟩], [], 0⟩
  report := some "\n"
  verdict := ⟨false, 0, 1, [.regression 1, .aggregate 1.25 1.1]⟩
  commented := true

/-- Its file reads back. -/
theorem Outcome.document_reads_back_extreme :
    ∃ tree', extreme.save .declared {} "report.json" = .ok tree' ∧
      ∃ place content, ({} : Tree).target "report.json" = .ok place ∧
        tree' = ({} : Tree).set place (.file content) ∧
        content = Utf8.encode (extreme.document .declared) ∧
        Json.read? (Utf8.decode content) = some (.record (extreme.filed .declared)) := by
  have htarget : ({} : Tree).target "report.json" = .ok ["report.json"] := by decide +kernel
  have hsave : extreme.save .declared {} "report.json" =
      .ok (({} : Tree).set ["report.json"] (.file (Utf8.encode (extreme.document .declared)))) := by
    simp only [save, Tree.write, htarget]
    rfl
  exact ⟨_, hsave, (document_reads_back .declared extreme).2.2.2 _ _ _ hsave⟩

end BenchGate
