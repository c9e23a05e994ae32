import JotaTranscriber.SessionRuns

namespace JotaTranscriber.FinalMessage
open SessionMachine StreamingSession

def NoFinal (messages : List ServerMessage) : Prop :=
  ∀ message ∈ messages, message.isFinal = false

-- Up to the final pass. The flush thread has been joined when it begins.
structure Opened (s : State) : Prop where
  sent : NoFinal (sentMessages s.log)
  unforced : ∀ text, .forced text ∉ s.log
  receiver : NoFinal (unsent s.receiver)
  flusher : ∀ message next, s.flusher = .sending message next → message.isFinal = false
  joined : s.receiver = .finalizing → s.flusher = .exited

structure Finishing (s : State) : Prop where
  sent : NoFinal (sentMessages s.log)
  flusher : s.flusher = .exited
  receiver : ∃ text reason, s.receiver = .sending [.transcription text true reason] (.close .final)

-- After it, ws_.close has been or will be called before the next read.
def ended (s : State) : Prop :=
  match s.receiver with
  | .closing .final | .unwinding | .returned | .destroying | .releasing | .destroyed => True
  | .reading => s.closeCalled = true
  | _ => False

structure Finished (s : State) : Prop where
  flusher : s.flusher = .exited
  receiver : ended s

theorem final_isTranscription (message : ServerMessage) (plain : message.isTranscription = false) :
    message.isFinal = false := by
  cases message <;> first | rfl | cases plain

theorem carries_not_final (carried : FlushLoop.carries message continuation) :
    message.isFinal = false := by
  cases continuation with
  | skip => rw [show message = _ from carried]; rfl
  | infer => rw [show message = _ from carried]; rfl
  | resume => obtain ⟨_,rfl⟩ := carried; rfl
  | clear => rw [show message = _ from carried]; rfl
  | finish => obtain ⟨_,rfl⟩ := carried; rfl

theorem exited_preserved (ended : s.flusher = .exited) (started : s.receiver ≠ .handshake)
    (move : Move params s action next) : next.flusher = .exited := by
  have still := halted_step params (by rw [ended]; rfl) move
  cases move with
  | accept pc => exact absurd pc started
  | wake | exit | tryLockFails | cycle | flushSend | relock => cases still
  | _ => exact ended

theorem finalizing_cases (move : Move params s action next) (pc : next.receiver = .finalizing) :
    next.flusher = .exited ∨ s.receiver = .finalizing := by
  rcases receiver_step params move with same | answers | leaves | ⟨other,_⟩ | ⟨other,_⟩ | ⟨_,_,other⟩ |
    ⟨_,_,ended⟩
  · exact .inr (same.symm.trans pc)
  · rw [pc] at answers; cases answers
  · rw [pc] at leaves; cases leaves
  · rw [pc] at other; cases other
  · rw [pc] at other; cases other
  · rw [pc] at other; cases other
  · exact .inl ended

theorem opened_preserved_by_finalPass (opened : Opened s)
    (move : Move params s (.finalPass slot outcome) next) : Opened next ∨ Finishing next := by
  have sent := sent_step params opened.sent opened.receiver opened.flusher move
  cases move with
  | finalPass pc ran =>
    have ended := opened.joined pc
    rcases handleEnd_cases ran with ⟨error,rfl,rfl,_⟩ | ⟨text,_,reason,rfl,_,_,rfl⟩
    · have unforced : ∀ text, .forced text ∉ s.log ++ [.finalFailed error] := by
        intro text present
        rcases List.mem_append.mp present with old | new
        · exact opened.unforced text old
        · cases List.mem_singleton.mp new
      exact .inl ⟨sent,unforced,List.forall_mem_nil _,opened.flusher,fun _ => ended⟩
    · exact .inr ⟨sent,ended,_,_,rfl⟩

theorem opened_preserved (opened : Opened s) (move : Move params s action next) :
    Opened next ∨ Finishing next := by
  by_cases final : ∃ slot outcome, action = .finalPass slot outcome
  · obtain ⟨slot,outcome,rfl⟩ := final
    exact opened_preserved_by_finalPass opened move
  · refine .inl ⟨sent_step params opened.sent opened.receiver opened.flusher move,?_,?_,?_,?_⟩
    · intro text present
      obtain ⟨new,extended,logged⟩ := log_step params move
      rw [extended] at present
      rcases List.mem_append.mp present with old | last
      · exact opened.unforced text old
      · exact final (finalPass_of_concluding rfl (logged _ last))
    · intro message present
      rcases unsent_step params move present with old | plain | last
      · exact opened.receiver message old
      · exact final_isTranscription message plain
      · exact absurd last final
    · intro message continuation pc
      rcases window_step params move pc with old | carried
      · exact opened.flusher message continuation old
      · exact carries_not_final carried
    · intro pc
      rcases finalizing_cases move pc with ended | before
      · exact ended
      · exact exited_preserved (opened.joined before) (by rw [before]; exact fun h => by cases h) move

theorem finishing_preserved (finishing : Finishing s) (move : Move params s action next) :
    Finishing next ∨ Finished next := by
  obtain ⟨sent,ended,text,reason,pc⟩ := finishing
  have still := halted_step params (by rw [ended]; rfl) move
  cases move with
  | tick => exact .inl ⟨sent,ended,text,reason,pc⟩
  | send current =>
    rw [pc] at current
    cases current
    exact .inr ⟨ended,trivial⟩
  | wake | exit | tryLockFails | cycle | flushSend | relock => cases still
  | accept current | acceptFails current | text current | binary current | readFails current
  | close current | acquire current | acquireFails current | install current | installFails current
  | join current | finalPass current | release current | destroy current | destroyJoin current
  | destroyRelease current => rw [pc] at current; cases current

-- Once the final message is out, all that can still be logged is the release
-- of the model.
theorem finished_preserved (finished : Finished s) (move : Move params s action next) :
    Finished next ∧ ∃ new, next.log = s.log ++ new ∧ (new = [] ∨ new = [.released]) := by
  obtain ⟨ended,receiver⟩ := finished
  have still := halted_step params (by rw [ended]; rfl) move
  cases move with
  | tick => exact ⟨⟨ended,receiver⟩,[],by simp⟩
  | text current live => simp [FinalMessage.ended,current,live] at receiver
  | binary current live => simp [FinalMessage.ended,current,live] at receiver
  | readFails => exact ⟨⟨ended,trivial⟩,[],by simp⟩
  | @close _ _ kind current =>
    cases kind with
    | final => exact ⟨⟨ended,rfl⟩,[],by simp⟩
    | rejected => simp [FinalMessage.ended,current] at receiver
    | policy => simp [FinalMessage.ended,current] at receiver
  | release _ ran => exact ⟨⟨ended,trivial⟩,_,rfl,releaseModel_events ran⟩
  | destroy => exact ⟨⟨ended,trivial⟩,[],by simp⟩
  | destroyJoin => exact ⟨⟨ended,trivial⟩,[],by simp⟩
  | destroyRelease _ ran => exact ⟨⟨ended,trivial⟩,_,rfl,releaseModel_events ran⟩
  | wake | exit | tryLockFails | cycle | flushSend | relock => cases still
  | accept current | acceptFails current | send current | acquire current | acquireFails current
  | install current | installFails current | join current | finalPass current =>
    simp [FinalMessage.ended,current] at receiver

def Phase (s : State) : Prop := Opened s ∨ Finishing s ∨ Finished s

theorem opened_of_flusher (phase : Phase s) (running : s.flusher ≠ .exited) : Opened s := by
  rcases phase with opened | finishing | finished
  · exact opened
  · exact absurd finishing.flusher running
  · exact absurd finished.flusher running

theorem opened_of_finalizing (phase : Phase s) (pc : s.receiver = .finalizing) : Opened s := by
  rcases phase with opened | finishing | finished
  · exact opened
  · obtain ⟨_,_,_,_,current⟩ := finishing
    rw [pc] at current
    cases current
  · have receiver := finished.receiver
    simp [ended,pc] at receiver

theorem initial_phase (now : Instant) : Phase (initial now) :=
  .inl ⟨List.forall_mem_nil _,fun _ => List.not_mem_nil,List.forall_mem_nil _,
    fun _ _ pc => (by cases pc),fun pc => (by cases pc)⟩

theorem phase_preserved (phase : Phase s) (move : Move params s action next) : Phase next := by
  rcases phase with opened | finishing | finished
  · exact (opened_preserved opened move).imp_right .inl
  · exact .inr (finishing_preserved finishing move)
  · exact .inr (.inr (finished_preserved finished move).1)

theorem runs_phase (path : Runs params (initial now) trace s) : Phase s :=
  path.invariant (initial_phase now) (fun phase one => phase_preserved phase one.2)

def Ordered (messages : List ServerMessage) : Prop :=
  Machine.Justified (fun before _ => NoFinal before) messages

theorem ordered_preserved (phase : Phase s) (ordered : Ordered (sentMessages s.log))
    (move : Move params s action next) : Ordered (sentMessages next.log) := by
  rcases sent_cases params move with ⟨message,extended,_⟩ | same
  · rw [extended,sentMessages_append]
    refine Machine.justified_append.mpr ⟨ordered,Machine.justified_singleton.mpr ?_⟩
    rw [List.append_nil]
    rcases phase with opened | finishing | finished
    · exact opened.sent
    · exact finishing.sent
    · obtain ⟨_,later,same,released⟩ := finished_preserved finished move
      have equal := List.append_cancel_left (extended.symm.trans same)
      rcases released with rfl | rfl <;> simp at equal
  · rw [same]
    exact ordered

theorem runs_ordered (path : Runs params (initial now) trace s) : Ordered (sentMessages s.log) := by
  have both : Phase s ∧ Ordered (sentMessages s.log) :=
    path.invariant (I := fun s => Phase s ∧ Ordered (sentMessages s.log))
      ⟨initial_phase now,Machine.justified_nil⟩
      (fun valid one => ⟨phase_preserved valid.1 one.2,ordered_preserved valid.1 valid.2 one.2⟩)
  exact both.2

theorem ordered_count (ordered : Ordered messages) :
    messages.countP ServerMessage.isFinal ≤ 1 := by
  rcases List.eq_nil_or_concat messages with rfl | ⟨earlier,last,rfl⟩
  · exact Nat.zero_le _
  · have before := ordered earlier last [] (List.concat_eq_append ..)
    have none_final : earlier.countP ServerMessage.isFinal = 0 := by
      rw [List.countP_eq_zero]
      intro message present
      rw [before message present]
      exact Bool.false_ne_true
    rw [List.concat_eq_append,List.countP_append,none_final,Nat.zero_add]
    exact List.countP_le_length

theorem final_message_last (path : Runs params (initial now) trace s) :
    (sentMessages s.log).countP ServerMessage.isFinal ≤ 1 ∧
    ∀ earlier message later, sentMessages s.log = earlier ++ message :: later →
      message.isFinal = true → later = [] := by
  have ordered := runs_ordered path
  refine ⟨ordered_count ordered,?_⟩
  intro earlier message later sequence final
  cases later with
  | nil => rfl
  | cons following rest =>
    have before := ordered (earlier ++ [message]) following rest (by simp [sequence])
    rw [before message (by simp)] at final
    cases final

theorem final_message_last_ended : ∃ trace s, Runs defaultParams (initial 0) trace s ∧
    sentMessages s.log =
      [readyMessage defaultParams (create 0),.transcription [] true none] ∧
    (sentMessages s.log).countP ServerMessage.isFinal ≤ 1 ∧
    ∀ earlier message later, sentMessages s.log = earlier ++ message :: later →
      message.isFinal = true → later = [] := by
  obtain ⟨s,ran,sent⟩ : ∃ s, run defaultParams (initial 0) (configSchedule ++
      [.text endPayload emptyView,.exit,.join,.finalPass true silence,.send]) = some s ∧
      sentMessages s.log =
        [readyMessage defaultParams (create 0),.transcription [] true none] := ⟨_,rfl,rfl⟩
  obtain ⟨trace,_,path⟩ := run_sound defaultParams ran
  exact ⟨trace,s,path,sent,final_message_last path⟩

end JotaTranscriber.FinalMessage
