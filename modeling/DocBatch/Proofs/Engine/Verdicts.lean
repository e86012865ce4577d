import DocBatch.Proofs.Engine.Timing

/-!
# Which tasks are admitted, and how the others are refused

The check of a task reads its header first: the classifier, the format version and whether it
carries data. Only a header this worker reads (`Task.Readable`: its own classifier, format
version 1, some data) sends the data to the codec, and then the task is admitted exactly when
the codec reads a document from it. A task for this worker in a newer format
(`Task.ForNewerWorker`) is rejected, so that a newer worker may take it; every other task is
invalid: another classifier whatever its version, version 0, no data, or data the codec
cannot read.

`tryAdmit_verdicts` puts this together with what an attempt to admit does with the tasks it
takes from the channel: the batch gains exactly those that pass, in the order they came, each
with the document of its payload, and every other one is answered with its refusal, in order.

The statements about the check are said without the order of its branches: `Readable` and
`ForNewerWorker` are read off the task alone, and the codec appears only where the header is
readable (`check_codec_of_not_readable`).
-/

namespace DocBatch

namespace Task

/-- A header this worker reads: its own classifier, format version 1, and some data. -/
def Readable (t : Task) : Prop :=
  t.classifier = taskClassifier ∧ t.apiVersion = taskFormat ∧ t.data ≠ []

/-- A task for this worker in a format newer than it reads. -/
def ForNewerWorker (t : Task) : Prop :=
  t.classifier = taskClassifier ∧ taskFormat < t.apiVersion

instance (t : Task) : Decidable t.Readable := inferInstanceAs (Decidable (_ ∧ _ ∧ _))

instance (t : Task) : Decidable t.ForNewerWorker := inferInstanceAs (Decidable (_ ∧ _))

variable {codec : Codec} {t : Task}

/-- What the header checks leave of a task that reaches the codec: its header is readable. -/
theorem readable_of_header {t : Task} (hcls : ¬t.classifier ≠ taskClassifier)
    (hnew : ¬t.apiVersion > taskFormat) (hzero : ¬t.apiVersion = 0) (hdata : ¬t.data.isEmpty = true) :
    t.Readable := by
  refine ⟨by simpa using hcls, ?_, by simpa using hdata⟩
  simp only [taskFormat, gt_iff_lt] at hnew ⊢
  omega

/-- A readable header hands the data to the codec: the task passes with what the codec reads,
and is invalid with the codec's error otherwise. -/
theorem check_of_readable (h : t.Readable) :
    t.check codec = (codec.decode t.data).mapError
      fun e => .invalid ("task data cannot be decoded: " ++ e.message) := by
  obtain ⟨hcls, hver, hdata⟩ := h
  have hne : t.data.isEmpty = false := by simpa using hdata
  simp only [check, hcls, hver, hne, taskFormat, ne_eq, not_true_eq_false, if_false, gt_iff_lt,
    Nat.lt_irrefl, Nat.one_ne_zero, Bool.false_eq_true]
  cases codec.decode t.data <;> rfl

/-- A header this worker does not read refuses the task. -/
theorem check_error_of_not_readable (h : ¬ t.Readable) : ∃ r, t.check codec = .error r := by
  unfold check
  split_ifs with hcls hnew hzero hdata
  · exact ⟨_, rfl⟩
  · exact ⟨_, rfl⟩
  · exact ⟨_, rfl⟩
  · exact ⟨_, rfl⟩
  · exact absurd (readable_of_header hcls hnew hzero hdata) h

/-- The codec is consulted only when the header is readable. -/
theorem check_codec_of_not_readable (h : ¬ t.Readable) (codec' : Codec) :
    t.check codec' = t.check codec := by
  unfold check
  split_ifs with hcls hnew hzero hdata
  · rfl
  · rfl
  · rfl
  · rfl
  · exact absurd (readable_of_header hcls hnew hzero hdata) h

/-- A task passes exactly when its header is readable and the codec reads its data. -/
theorem check_eq_ok_iff {p : Payload} :
    t.check codec = .ok p ↔ t.Readable ∧ codec.decode t.data = .ok p := by
  by_cases h : t.Readable
  · rw [check_of_readable h]
    cases codec.decode t.data <;> simp [Except.mapError, h]
  · obtain ⟨r, hr⟩ : ∃ r, t.check codec = .error r := check_error_of_not_readable h
    simp [hr, h]

/-- A task is rejected exactly when it is for this worker in a newer format. -/
theorem check_rejected_iff :
    (∃ r, t.check codec = .error (.rejected r)) ↔ t.ForNewerWorker := by
  unfold check ForNewerWorker
  by_cases hcls : t.classifier = taskClassifier
  · by_cases hnew : t.apiVersion > taskFormat
    · simp [hcls, hnew]
    · by_cases hzero : t.apiVersion = 0
      · simp [hcls, hzero]
      · by_cases hdata : t.data.isEmpty
        · simp [hcls, hnew, hzero, hdata]
        · cases codec.decode t.data <;> simp [hcls, hnew, hzero, hdata]
  · simp [hcls]

/-- Every other task is invalid: one that is not for a newer worker and whose data, when its
header is readable, the codec cannot read. -/
theorem check_invalid_iff :
    (∃ r, t.check codec = .error (.invalid r)) ↔
      ¬ t.ForNewerWorker ∧ (t.Readable → ∃ e, codec.decode t.data = .error e) := by
  have hok : ∀ p, t.check codec = .ok p ↔ t.Readable ∧ codec.decode t.data = .ok p :=
    fun _ => check_eq_ok_iff
  have hrej : (∃ r, t.check codec = .error (.rejected r)) ↔ t.ForNewerWorker := check_rejected_iff
  cases hc : t.check codec with
  | ok p =>
      obtain ⟨hread, hd⟩ := (hok p).1 hc
      simp only [reduceCtorEq, exists_false, false_iff, not_and, not_forall, not_exists]
      intro _
      exact ⟨hread, fun e => by simp [hd]⟩
  | error r =>
      cases r with
      | rejected r =>
          have hnew := hrej.1 ⟨r, hc⟩
          simp [hnew]
      | invalid r =>
          refine ⟨fun _ => ⟨fun hnew => ?_, fun hread => ?_⟩, fun _ => ⟨r, rfl⟩⟩
          · obtain ⟨r', hr'⟩ := hrej.2 hnew
            rw [hc] at hr'
            cases hr'
          · cases hd : codec.decode t.data with
            | error e => exact ⟨e, rfl⟩
            | ok p =>
                have := (hok p).2 ⟨hread, hd⟩
                rw [hc] at this
                cases this

end Task

/-! ## An attempt to admit sorts the tasks it takes -/

namespace Batch

/-- One call appends the tasks it admitted, each with its document. -/
theorem Advance.entries {codec : Codec} {limits : Limits} {b b' : Batch}
    {xs : List (Task × Nat)} (h : Advance codec limits b b' xs) :
    b'.entries = b.entries ++ admitted codec xs := by
  obtain ⟨c, rfl⟩ := h.closes
  simp [consumeAll_eq]

end Batch

namespace Assembler

open Proc

variable {σ ω : Type} {rt : Runtime (Shared (Env σ ω))} {ctx : Context} {src : Source σ ω}
  {s s' : Shared (Env σ ω)} {tr : List (Wake (Shared (Env σ ω)))} {a a' : Assembler}
  {adm : Admission}

/-- **What an attempt to admit does with the tasks it takes.** On any source faithful to the
runtime, an attempt appends to the batch exactly the tasks it took that pass their check, in
the order they came, each with the document its payload makes. A task passes exactly when its
header is readable and the codec reads its data; it is rejected exactly when it is for this
worker in a newer format, and invalid in every other case; and the codec is consulted only
when the header is readable. On the channel, against a runtime in which nobody else answers
tasks, every other task is answered with its refusal, in order, as far as the receiver takes
the answers. -/
theorem tryAdmit_verdicts (hsrc : src.Faithful rt)
    (h : Exec rt (a.tryAdmit ctx src) s s' (adm, a') tr) :
    a'.batch.entries = a.batch.entries ++ Batch.admitted ctx.codec (taken tr) ∧
      (src = Source.channel → KeepsAnswers rt →
        Reaches (refusalAnswers ctx.codec (taken tr)) s s') ∧
      ∀ x ∈ taken tr,
        (∀ p, x.1.check ctx.codec = .ok p ↔ x.1.Readable ∧ ctx.codec.decode x.1.data = .ok p) ∧
        ((∃ r, x.1.check ctx.codec = .error (.rejected r)) ↔ x.1.ForNewerWorker) ∧
        ((∃ r, x.1.check ctx.codec = .error (.invalid r)) ↔
          ¬ x.1.ForNewerWorker ∧ (x.1.Readable → ∃ e, ctx.codec.decode x.1.data = .error e)) ∧
        (¬ x.1.Readable → ∀ codec : Codec, x.1.check codec = x.1.check ctx.codec) := by
  refine ⟨(tryAdmit_attempt hsrc h).advance.entries, fun hch hrt => ?_,
    fun _ _ => ⟨fun _ => Task.check_eq_ok_iff, Task.check_rejected_iff, Task.check_invalid_iff,
      fun hread codec => Task.check_codec_of_not_readable hread codec⟩⟩
  subst hch
  exact tryAdmit_reaches hrt h

/-- A codec that reads every text as the empty document. -/
def Codec.acceptAll : Codec where
  decode _ := .ok {}
  encode _ := .ok []

/-- An attempt on an empty batch of one document with two tasks queued: one in a newer format,
refused as rejected and answered, then one that passes, admitted. -/
theorem tryAdmit_verdicts_newer :
    ∃ (s' : Shared (Env Unit Unit)) (a' : Assembler) (tr : List (Wake (Shared (Env Unit Unit)))),
      Exec (Outside.runtime ⟨5000, none⟩)
        (({ limits := ⟨1, 100⟩ } : Assembler).tryAdmit { codec := Codec.acceptAll } Source.channel)
        (Outside.start [{ id := 7, apiVersion := 2 }, { id := 8, data := [1] }]) s' (.admitted, a') tr ∧
      (taken tr).map (fun x => x.1.id) = [7, 8] ∧ a'.batch.entries.length = 1 ∧
      s'.rest.delivered.toList.map (fun d => (d.taskId, d.response.kind)) = [(7, "rejected")] ∧
      a'.batch.entries = ({} : Batch).entries ++ Batch.admitted Codec.acceptAll (taken tr) ∧
      (Source.channel = (Source.channel : Source Unit Unit) →
        KeepsAnswers (Outside.runtime ⟨5000, none⟩ : Runtime (Shared (Env Unit Unit))) →
        Reaches (refusalAnswers Codec.acceptAll (taken tr))
          (Outside.start [{ id := 7, apiVersion := 2 }, { id := 8, data := [1] }]) s') ∧
      ∀ x ∈ taken tr,
        (∀ p, x.1.check Codec.acceptAll = .ok p ↔
          x.1.Readable ∧ Codec.acceptAll.decode x.1.data = .ok p) ∧
        ((∃ r, x.1.check Codec.acceptAll = .error (.rejected r)) ↔ x.1.ForNewerWorker) ∧
        ((∃ r, x.1.check Codec.acceptAll = .error (.invalid r)) ↔
          ¬ x.1.ForNewerWorker ∧ (x.1.Readable → ∃ e, Codec.acceptAll.decode x.1.data = .error e)) ∧
        (¬ x.1.Readable → ∀ codec : Codec, x.1.check codec = x.1.check Codec.acceptAll) := by
  obtain ⟨s', ⟨adm, a'⟩, tr, h, hfacts⟩ := exec_of_runFor_any (show
    (runFor (Outside.wake ⟨5000, none⟩) 1000
      (({ limits := ⟨1, 100⟩ } : Assembler).tryAdmit { codec := Codec.acceptAll }
        (Source.channel : Source Unit Unit))
      (Outside.start [{ id := 7, apiVersion := 2 }, { id := 8, data := [1] }])).any
      (fun x => x.2.1.1 == .admitted && (taken x.2.2).map (fun x => x.1.id) == [7, 8] &&
        x.2.1.2.batch.entries.length == 1 &&
        x.1.rest.delivered.toList.map (fun d => (d.taskId, d.response.kind)) == [(7, "rejected")]) = true
    by decide +kernel)
  simp only [Bool.and_eq_true, beq_iff_eq] at hfacts
  obtain ⟨⟨⟨rfl, htaken⟩, hlen⟩, hdelivered⟩ := hfacts
  exact ⟨s', a', tr, h, htaken, hlen, hdelivered,
    tryAdmit_verdicts (Source.channel_faithful _) h⟩

end Assembler

end DocBatch
