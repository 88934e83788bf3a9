import ScriptGrader.Proofs.Grader.Outputs
import ScriptGrader.Proofs.Sink.Delivery
import ScriptGrader.Proofs.Text.Lines

/-!
# The data that is passed on

The data of a grading is read as a text file is, so each end of a line in it
becomes a line feed, and only data without a carriage return comes out byte
for byte. From there on nothing changes it: every request that is sent, in
whatever way the publishing ends, carries the text of the bundle.
-/

namespace ScriptGrader

open Work (Keeps)

/-! ## Requests that carry a text -/

/-- A server reads results from a request, and this text beside them. -/
def Web.Request.Carries (q : Web.Request) (metadata : String) : Prop :=
  ∃ results, q.report? = some (results, metadata)

/-- Every request that was sent in between carries a text. -/
def Outside.SentCarrying (metadata : String) (o o' : Outside) : Prop :=
  ∃ requests, o'.sent = o.sent ++ requests ∧ ∀ q ∈ requests, q.Carries metadata

theorem Outside.SentCarrying.of_sent_eq {o o' : Outside} (h : o'.sent = o.sent) (metadata : String) :
    SentCarrying metadata o o' := ⟨[], by rw [h, List.append_nil], fun q hq => by cases hq⟩

theorem Outside.isFrame_sentCarrying (metadata : String) : IsFrame (SentCarrying metadata) := by
  refine ⟨fun o => .of_sent_eq rfl metadata, fun o _ => .of_sent_eq rfl metadata, ?_⟩
  rintro o o₁ o₂ ⟨first, hfirst, hcarry⟩ ⟨second, hsecond, hcarry'⟩
  refine ⟨first ++ second, by rw [hsecond, hfirst, List.append_assoc], fun q hq => ?_⟩
  rcases List.mem_append.1 hq with hq | hq
  · exact hcarry q hq
  · exact hcarry' q hq

namespace Publisher

variable {p : Publisher} {b : Bundle} {content : Json} {metadata : String}

/-- A request is sent only if its numbers are finite. -/
theorem isFinite_of_hindrance? (h : p.hindrance? content = none) : content.isFinite = true := by
  rw [hindrance?] at h
  split at h
  · cases h
  · by_contra hfinite
    rw [Bool.not_eq_true] at hfinite
    simp [hfinite] at h

/-- What is posted for a bundle are results under different keys, with its text. -/
theorem exists_items_of_mem_payloads (h : content ∈ p.payloads b) :
    ∃ items, (items.map Prod.fst).Nodup ∧ content = payload items b.metadata := by
  rw [payloads] at h
  split at h
  · obtain ⟨x, -, rfl⟩ := List.mem_map.1 h
    exact ⟨[x], by simp, rfl⟩
  · exact ⟨b.items, b.nodup, List.mem_singleton.1 h⟩

/-- **One post** sends at most its own request. -/
theorem keeps_post_sentCarrying (hcarries : content.isFinite = true → (p.request content).Carries metadata) :
    Keeps (Outside.SentCarrying metadata) (p.post content) := by
  have hframe := Outside.isFrame_sentCarrying metadata
  intro o
  rw [on_post]
  split
  swap
  · exact hframe.refl o
  split
  · exact hframe.note o _
  · next hnone =>
    have hcarry := hcarries (isFinite_of_hindrance? hnone)
    rw [Work.on_bind_ok (Work.on_send _ _)]
    -- behind the request there is a note at most
    refine hframe.trans ?_ (Keeps.bind hframe (Work.keeps_given hframe _) (fun line => Work.keeps_note hframe [line]) _)
    exact ⟨[p.request content], rfl, fun q hq => List.mem_singleton.1 hq ▸ hcarry⟩

/-- **Publishing**, however it ends. -/
theorem keeps_write_sentCarrying (p : Publisher) (b : Bundle) :
    Keeps (Outside.SentCarrying b.metadata) (p.write b) := by
  refine Keeps.forM (Outside.isFrame_sentCarrying b.metadata) fun content hcontent => ?_
  obtain ⟨items, hnodup, rfl⟩ := exists_items_of_mem_payloads hcontent
  exact keeps_post_sentCarrying fun hfinite => exists_report?_request p hnodup hfinite

end Publisher

namespace Grader

variable {g : Grader} {o o' : Outside} {b : Bundle} {p : Path} {s : String}

theorem keeps_sinks_sentCarrying (hg : g.IsSettled) (b : Bundle) :
    Keeps (Outside.SentCarrying b.metadata) (g.sinks.forM (handOver b)) := by
  have hframe := Outside.isFrame_sentCarrying b.metadata
  intro o
  rw [sinks_eq, Work.on_forM_append]
  refine Keeps.bind hframe ((keeps_reportSinks hg b).mono fun h => .of_sent_eq h.sent _) (fun _ => ?_) o
  refine Keeps.forM hframe fun s hs => keeps_handOver hframe ?_
  obtain ⟨p, -, rfl⟩ := List.mem_map.1 hs
  exact p.keeps_write_sentCarrying b

/-! ## From the file to the server -/

/-- What is passed on of a text that stands at the path of the data. -/
theorem dataIn_eq {fs : Files} (hpath : g.customData = some p) (hread : fs.read? p = .ok (Text.encode s)) :
    g.dataIn fs = .ok (String.ofList (Text.universalNewlines s.toList)) := by
  rw [dataIn, hpath]
  simp only [hread, dataOf, Text.decodeFile_encode]
  rfl

/-- **The lines of the data are passed on, its ends of lines are not.** Where
no report goes to the path of the data, a grading that comes to its end
returns the text that stood there before, with a line feed for every end of
a line, and each request it has sent carries that text. -/
theorem grade_passes_lines_on (hg : g.Built) (hpath : g.customData = some p) (hplace : p ∉ g.reportPaths)
    (hread : o.files.read? p = .ok (Text.encode s)) (h : Work.on o g.grade = (.ok b, o')) :
    b.metadata = String.ofList (Text.universalNewlines s.toList) ∧
      (Text.encode b.metadata = Text.encode s ↔ '\r' ∉ s.toList) ∧
      ∃ requests, o'.sent = o.sent ++ requests ∧ ∀ q ∈ requests, ∃ results, q.report? = some (results, b.metadata) := by
  have hsettled := hg.isSettled
  rw [grade_eq] at h
  obtain ⟨b, o₁, hprepare, hdeliver⟩ := Work.bind_eq_ok_iff.1 h
  obtain ⟨rfl, o₂, hsinks, hnoted⟩ := deliver_eq_ok hdeliver
  obtain ⟨hfault, hassessment, hcleared⟩ := cleared_of_prepare hsettled hprepare
  obtain ⟨-, -, -, -, hdata, -⟩ := assessment_eq_ok hassessment
  have hmetadata : b.metadata = String.ofList (Text.universalNewlines s.toList) := by
    -- cleaning leaves what stands at another path
    have hchanged := (hcleared.emptied hfault).differAt hsettled.flat_reports
    have hkept := (hchanged.read?_eq_ok_iff hsettled.isResolved_reports (hsettled.customData p hpath) hplace).2 hread
    rw [dataIn_eq hpath hkept] at hdata
    exact (Except.ok.inj hdata).symm
  refine ⟨hmetadata, ?_, ?_⟩
  · rw [hmetadata, Text.encode_universalNewlines_iff]
  · have hframe := Outside.isFrame_sentCarrying b.metadata
    have hdelivered := keeps_sinks_sentCarrying hsettled b o₁
    rw [hsinks] at hdelivered
    exact hframe.trans (.of_sent_eq hcleared.sent _) (hframe.trans hdelivered (.of_sent_eq hnoted.sent _))

/-- Data with a carriage return in the middle of it, and a publisher. -/
def returnOutside : Outside :=
  let o := sampleOutside "checks: [FunctionDefinition]\nreports:\ncustom_data: h\npublish:\n url: http://h/\n" []
  { o with files := { o.files with entries := (["w", "h"], .file (Text.encode "a\rb")) :: o.files.entries } }

/-- What is tested of a grading that passes this data on to a server. -/
def passesReturnOn (g : Grader) : Bool :=
  decide (g.customData = some ⟨true, ["w", "h"]⟩) && decide (⟨true, ["w", "h"]⟩ ∉ g.reportPaths) &&
    (Work.on returnOutside g.grade).1.toOption.any (fun b => decide (b.metadata = "a\nb")) &&
    decide ((Work.on returnOutside g.grade).2.sent.length = 1)

theorem exists_passesReturnOn : ∃ g b o', Built g ∧ g.customData = some ⟨true, ["w", "h"]⟩ ∧
    ⟨true, ["w", "h"]⟩ ∉ g.reportPaths ∧ Work.on returnOutside g.grade = (.ok b, o') ∧ b.metadata = "a\nb" ∧
    o'.sent.length = 1 := by
  obtain ⟨g, hg, htest⟩ := @exists_built_of_sample returnOutside passesReturnOn (by decide +kernel)
  simp only [passesReturnOn, Bool.and_eq_true, decide_eq_true_eq] at htest
  obtain ⟨⟨⟨hpath, hplace⟩, hrun⟩, hsent⟩ := htest
  obtain ⟨b, o', hgrade, hmetadata⟩ := Work.exists_of_any hrun
  rw [hgrade] at hsent
  exact ⟨g, b, o', hg, hpath, hplace, hgrade, of_decide_eq_true hmetadata, hsent⟩

theorem sample_passes_lines_on : ∃ g b o', Built g ∧ g.customData = some ⟨true, ["w", "h"]⟩ ∧
    returnOutside.files.read? ⟨true, ["w", "h"]⟩ = .ok (Text.encode "a\rb") ∧
    Work.on returnOutside g.grade = (.ok b, o') ∧ b.metadata = "a\nb" ∧
    ∃ q, o'.sent = [q] ∧ ∃ results, q.report? = some (results, "a\nb") := by
  obtain ⟨g, b, o', hg, hpath, hplace, hgrade, hmetadata, hlength⟩ := exists_passesReturnOn
  obtain ⟨-, -, requests, hsent, hcarry⟩ := grade_passes_lines_on hg hpath hplace rfl hgrade
  obtain ⟨q, hq⟩ := List.length_eq_one_iff.1 hlength
  have hmem : q ∈ requests := by
    have hnone : returnOutside.sent = [] := rfl
    rw [hnone, List.nil_append, hq] at hsent
    exact hsent ▸ List.mem_singleton_self q
  exact ⟨g, b, o', hg, hpath, rfl, hgrade, hmetadata, q, hq, hmetadata ▸ hcarry q hmem⟩

/-- **Data does not come out as it was**: not every grading returns the bytes that stood at its path. -/
theorem not_forall_metadata_verbatim : ¬ ∀ (g : Grader) (o o' : Outside) (b : Bundle) (p : Path) (s : String),
    g.Built → g.customData = some p → p ∉ g.reportPaths → o.files.read? p = .ok (Text.encode s) →
    Work.on o g.grade = (.ok b, o') → Text.encode b.metadata = Text.encode s := by
  intro hall
  obtain ⟨g, b, o', hg, hpath, hplace, hgrade, hmetadata, -⟩ := exists_passesReturnOn
  have hbytes := hall g returnOutside o' b _ "a\rb" hg hpath hplace rfl hgrade
  rw [hmetadata, Text.encode_inj] at hbytes
  exact absurd hbytes (by decide)

end Grader
end ScriptGrader
