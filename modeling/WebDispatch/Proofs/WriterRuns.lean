import WebDispatch.Proofs.ChannelTraffic

namespace WebDispatch

variable {σ : Type}

namespace Line

theorem write_of_not_open {o : Outbox} (h : o.isOpen = false) (ws : List Frame) :
    (Line.mk o ws).write = ⟨o, ws⟩ := by
  simp [write, h]

theorem write_of_empty {o : Outbox} (hq : o.queued = []) (ws : List Frame) :
    (Line.mk o ws).write = ⟨o, ws⟩ := by
  simp [write, hq]

theorem write_of_close {o : Outbox} {fs : List Frame} (h : o.isOpen = true)
    (hq : o.queued = .close :: fs) (ws : List Frame) :
    (Line.mk o ws).write = ⟨o.shut, ws ++ [.close]⟩ := by
  simp [write, h, hq]

theorem write_of_frame {o : Outbox} {f : Frame} {fs : List Frame} (h : o.isOpen = true)
    (hq : o.queued = f :: fs) (hf : f ≠ .close) (ws : List Frame) :
    (Line.mk o ws).write = ⟨{ o with queued := fs }, ws ++ [f]⟩ := by
  cases f with
  | close => exact absurd rfl hf
  | text s | binary bs => simp [write, h, hq]

end Line

namespace Traffic

def WriterRun : Traffic σ → Traffic σ → Prop :=
  Relation.ReflTransGen WriterStep

theorem WriterRun.reaches {t t' : Traffic σ} (h : t.WriterRun t') : t.Reaches t' :=
  Relation.ReflTransGen.mono (fun _ _ ↦ .writer) _ _ h

def AtRest (t : Traffic σ) : Prop :=
  ∀ t', ¬ WriterStep t t'

theorem atRest_of_waiting {t : Traffic σ} (hw : t.writer = .waiting) (hq : t.queue = []) :
    t.AtRest := by
  intro t' hs
  cases hs with
  | take idle oldest => cases oldest.symm.trans hq
  | finish busy goesOn => cases busy.symm.trans hw
  | stop busy => cases busy.symm.trans hw
  | fail busy => cases busy.symm.trans hw

theorem atRest_of_not_running {t : Traffic σ} (hw : t.writer.isRunning = false) : t.AtRest := by
  intro t' hs
  cases hs with
  | take idle oldest => simp [idle, Writer.isRunning] at hw
  | finish busy goesOn => simp [busy, Writer.isRunning] at hw
  | stop busy => simp [busy, Writer.isRunning] at hw
  | fail busy => simp [busy, Writer.isRunning] at hw

theorem exists_step_of_sending {t : Traffic σ} {f : Frame} (hw : t.writer = .sending f) :
    ∃ t', WriterStep t t' ∧ ∀ g, t'.writer ≠ .failed g := by
  by_cases hf : f = .close
  · subst hf
    exact ⟨t.stop, .stop hw, fun g hg ↦ by cases hg⟩
  · exact ⟨t.finish f, .finish hw hf, fun g hg ↦ by cases hg⟩

theorem atRest_or_exists_step {t : Traffic σ} (h : ∀ f, t.writer ≠ .failed f) :
    (t.writer = .waiting ∧ t.queue = []) ∨ t.writer = .stopped ∨
      ∃ t', WriterStep t t' ∧ ∀ f, t'.writer ≠ .failed f := by
  cases hw : t.writer with
  | waiting =>
    cases hq : t.queue with
    | nil => exact .inl ⟨rfl, rfl⟩
    | cons f fs => exact .inr (.inr ⟨t.take f fs, .take hw hq, fun g hg ↦ by cases hg⟩)
  | sending f => exact .inr (.inr (exists_step_of_sending hw))
  | stopped => exact .inr (.inl rfl)
  | failed f => exact absurd hw (h f)

theorem AtRest.waiting_or_stopped {t : Traffic σ} (hr : t.AtRest) (h : ∀ f, t.writer ≠ .failed f) :
    (t.writer = .waiting ∧ t.queue = []) ∨ t.writer = .stopped := by
  rcases atRest_or_exists_step h with hwaiting | hstopped | ⟨t', hs, -⟩
  · exact .inl hwaiting
  · exact .inr hstopped
  · exact absurd hs (hr t')

/-- Each queued frame is to be taken and to be sent, a frame in the writer's hand only to be sent. -/
def work (t : Traffic σ) : Nat :=
  2 * t.queue.length +
    match t.writer with
    | .sending _ => 1
    | _ => 0

theorem WriterStep.work_lt {t t' : Traffic σ} (hs : WriterStep t t') : t'.work < t.work := by
  cases hs with
  | @take f fs idle oldest =>
    have hq : t.queue.length = fs.length + 1 := by rw [oldest, List.length_cons]
    have ht : (t.take f fs).work = 2 * fs.length + 1 := rfl
    rw [ht, work, hq]
    omega
  | @finish f busy goesOn =>
    have ht : (t.finish f).work = 2 * t.queue.length := rfl
    rw [ht, work, busy]
    exact Nat.lt_succ_self _
  | stop busy =>
    have ht : t.stop.work = 0 := rfl
    rw [ht, work, busy]
    exact Nat.succ_pos _
  | @fail f busy =>
    have ht : (t.fail f).work = 0 := rfl
    rw [ht, work, busy]
    exact Nat.succ_pos _

theorem exists_rest {t : Traffic σ} (h : ∀ f, t.writer ≠ .failed f) :
    ∃ t', t.WriterRun t' ∧ t'.AtRest ∧ ∀ f, t'.writer ≠ .failed f := by
  induction hw : t.work using Nat.strongRecOn generalizing t with
  | ind k ih =>
    rcases atRest_or_exists_step h with ⟨hwaiting, hq⟩ | hstopped | ⟨u, hs, hu⟩
    · exact ⟨t, .refl, atRest_of_waiting hwaiting hq, h⟩
    · exact ⟨t, .refl, atRest_of_not_running (by rw [hstopped]; rfl), h⟩
    · obtain ⟨t', hr, hrest, hok⟩ := ih u.work (hw ▸ hs.work_lt) hu rfl
      exact ⟨t', .head hs hr, hrest, hok⟩

/-! ### Sending all that is queued -/

/-- One turn of a writer that does not fail, and the frames that it sends. -/
structure Turn (t t' : Traffic σ) (sent : List Frame) : Prop where
  run : t.WriterRun t'
  stopped_or : t'.writer = .stopped ∨ t'.writer = .waiting
  channel : t'.channel = { t.channel with outbox := t'.channel.outbox }
  written : t'.written = t.written ++ sent

theorem Turn.refl {t : Traffic σ} (hi : t.writer = .stopped ∨ t.writer = .waiting) : t.Turn t [] where
  run := .refl
  stopped_or := hi
  channel := rfl
  written := (List.append_nil _).symm

theorem Turn.trans {t u v : Traffic σ} {fs gs : List Frame} (h : t.Turn u fs) (h' : u.Turn v gs) :
    t.Turn v (fs ++ gs) where
  run := h.run.trans h'.run
  stopped_or := h'.stopped_or
  channel := by rw [h'.channel, h.channel]
  written := by rw [h'.written, h.written, List.append_assoc]

theorem turn_of_frame {t : Traffic σ} {f : Frame} {fs : List Frame} (hw : t.writer = .waiting)
    (hq : t.queue = f :: fs) (hf : f ≠ .close) : t.Turn ((t.take f fs).finish f) [f] where
  run := .tail (.single (.take hw hq)) (.finish rfl hf)
  stopped_or := .inr rfl
  channel := rfl
  written := rfl

theorem turn_of_close {t : Traffic σ} {fs : List Frame} (hw : t.writer = .waiting)
    (hq : t.queue = .close :: fs) : t.Turn (t.take .close fs).stop [.close] where
  run := .tail (.single (.take hw hq)) (.stop rfl)
  stopped_or := .inl rfl
  channel := rfl
  written := rfl

theorem Sound.exists_turn {n : Nat} {t : Traffic σ} (h : t.Sound n)
    (hi : t.writer = .stopped ∨ t.writer = .waiting) :
    ∃ t' sent, t.Turn t' sent ∧
      (t'.writer = .waiting → t.writer = .waiting ∧ t'.queue = t.queue.tail) ∧
      ∀ ws, (Line.mk t.channel.outbox ws).write = ⟨t'.channel.outbox, ws ++ sent⟩ := by
  rcases hi with hw | hw
  · have hopen : t.channel.outbox.isOpen = false := h.isOpen.trans (by rw [hw]; rfl)
    refine ⟨t, [], .refl (.inl hw), fun hidle ↦ (by cases hw.symm.trans hidle), fun ws ↦ ?_⟩
    rw [Line.write_of_not_open hopen, List.append_nil]
  · have hopen : t.channel.outbox.isOpen = true := h.isOpen.trans (by rw [hw]; rfl)
    cases hq : t.queue with
    | nil =>
      refine ⟨t, [], .refl (.inr hw), fun _ ↦ ⟨hw, hq⟩, fun ws ↦ ?_⟩
      rw [Line.write_of_empty hq, List.append_nil]
    | cons f fs =>
      by_cases hf : f = .close
      · subst hf
        exact ⟨_, _, turn_of_close hw hq, fun hidle ↦ (by cases hidle), Line.write_of_close hopen hq⟩
      · exact ⟨_, _, turn_of_frame hw hq hf, fun _ ↦ ⟨hw, rfl⟩, Line.write_of_frame hopen hq hf⟩

theorem Sound.exists_turns {n : Nat} (fs : List Frame) {t : Traffic σ} (h : t.Sound n)
    (hi : t.writer = .stopped ∨ t.writer = .waiting)
    (hl : t.writer = .waiting → t.queue.length ≤ fs.length) :
    ∃ t' sent, t.Turn t' sent ∧ t'.AtRest ∧
      ∀ ws, fs.foldl (fun l _ ↦ l.write) (Line.mk t.channel.outbox ws) =
        ⟨t'.channel.outbox, ws ++ sent⟩ := by
  induction fs generalizing t with
  | nil =>
    refine ⟨t, [], .refl hi, ?_, fun ws ↦ by simp⟩
    rcases hi with hw | hw
    · exact atRest_of_not_running (by rw [hw]; rfl)
    · exact atRest_of_waiting hw (List.length_eq_zero_iff.1 (Nat.le_zero.1 (hl hw)))
  | cons f fs ih =>
    obtain ⟨u, gs, hu, hqueue, hwrite⟩ := h.exists_turn hi
    have hl' : u.writer = .waiting → u.queue.length ≤ fs.length := by
      intro hw
      obtain ⟨hwaiting, htail⟩ := hqueue hw
      rw [htail, List.length_tail]
      exact Nat.sub_le_of_le_add (hl hwaiting)
    obtain ⟨t', hs, ht, hrest, hfold⟩ := ih (h.reaches hu.run.reaches) hu.stopped_or hl'
    refine ⟨t', gs ++ hs, hu.trans ht, hrest, fun ws ↦ ?_⟩
    rw [List.foldl_cons, hwrite, hfold, List.append_assoc]

/-- To flush a channel is one way for its writer to come to rest. -/
theorem Sound.exists_flush {n : Nat} {t : Traffic σ} (h : t.Sound n)
    (hi : t.writer = .stopped ∨ t.writer = .waiting) :
    ∃ t', t.WriterRun t' ∧ t'.AtRest ∧ (∀ f, t'.writer ≠ .failed f) ∧
      t'.channel = t.channel.flush.2 ∧ t'.written = t.written ++ t.channel.flush.1 := by
  obtain ⟨t', sent, ht, hrest, hfold⟩ := h.exists_turns t.queue hi fun _ ↦ Nat.le_refl _
  have hflush : (Line.mk t.channel.outbox []).flush = ⟨t'.channel.outbox, sent⟩ := hfold []
  refine ⟨t', ht.run, hrest, fun f hf ↦ ?_, ?_, ?_⟩
  · rcases ht.stopped_or with hw | hw <;> cases hw.symm.trans hf
  · rw [Channel.flush, hflush]
    exact ht.channel
  · rw [Channel.flush, hflush]
    exact ht.written

end Traffic

end WebDispatch
