import RecordMapper.Proofs.WorkEnds

/-! A unit of work is all or nothing: its transaction ends once, and it is committed exactly if no call before has
failed. -/

namespace RecordMapper

namespace Work

/-- Until the first close, the errors of a transactional unit of work are the messages of the failed calls. That close
asks once for the end of the transaction, a commit if every call has succeeded and a rollback otherwise. No call after
it sends anything, and closing again changes nothing. -/
theorem unit_of_work_atomic (s : Surroundings σ) (dialect : Dialect) (options : WorkOptions) (timeout : Duration)
    (keys : KeySource) (world : σ) (before after : List Call) (others : ∀ call ∈ before, call.isClose = false) :
    let start : Scene (σ × List Exchange) := ⟨opened dialect options timeout .transaction, keys, world, []⟩
    let worked := run s.recording before start
    let closed := Call.close.perform s.recording worked.2
    let whole := run s.recording (before ++ .close :: after) start
    worked.2.work.errors = messages worked.1 ∧
    closed.1 = .ok () ∧
    (∃ ending copies, closed.2.world.2 = worked.2.world.2 ++ ending :: copies ∧
      (∀ exchange ∈ worked.2.world.2, exchange.isStatement = true) ∧
      (Succeeded worked.1 → ∃ reply, ending = .commit reply) ∧
      (¬Succeeded worked.1 → ∃ reply, ending = .rollback reply) ∧
      ∀ exchange ∈ copies, exchange.copied?.isSome = true) ∧
    whole.2.world.2 = closed.2.world.2 ∧
    (whole.2.world.2.filter Exchange.isEnd).length = 1 ∧
    Call.close.perform s.recording whole.2 = (.ok (), whole.2) := by
  intro start worked closed whole
  have holds : start.work.hold = some .transaction := rfl
  obtain ⟨ran, ok, ends, still, silent⟩ := run_through s holds others after
  have errors : worked.2.work.errors = messages worked.1 := ran.errors
  obtain ⟨sent, added, statements, _⟩ := ran.sends
  obtain rfl : worked.2.world.2 = sent := added
  obtain ⟨resolutions, copies, record, resolved, handed⟩ := ends.record
  have copied := copied_of_handed handed
  have once : closed.2.world.2.filter Exchange.isEnd = resolutions := by
    rw [record]
    exact filter_isEnd statements resolved.isEnd copied
  obtain ⟨ending, rfl, reply, same⟩ := resolved
  rw [errors] at same
  refine ⟨errors, ok, ⟨ending, copies, record, statements, fun succeeded => ?_, fun failed => ?_, copied⟩, silent, ?_,
    close_closed s.recording still⟩
  · exact ⟨reply, same.trans (if_pos (messages_eq_nil.mpr succeeded))⟩
  · exact ⟨reply, same.trans (if_neg (mt messages_eq_nil.mp failed))⟩
  · rw [silent, once]
    rfl

/-- The second of two statements is refused: the work is rolled back, and the statement after the close is not sent. -/
theorem refused_work_rolled_back :
    let s := Surroundings.numbering {} (fun count => if count = 1 then .refused "locked" else .done 1) fun _ => .ok ()
    let start : Scene (Nat × List Exchange) := ⟨opened .sqlite {} (.ofMilliseconds 1) .transaction, ⟨0, []⟩, 0, []⟩
    let before : List Call := [.executeRaw "DELETE FROM a" [], .executeRaw "DELETE FROM b" []]
    let whole := run s.recording (before ++ [.close, .executeRaw "DELETE FROM c" []]) start
    (∀ call ∈ before, call.isClose = false) ∧
    ∃ reply copies, whole.2.world.2 = (run s.recording before start).2.world.2 ++ .rollback reply :: copies ∧
      (whole.2.world.2.filter Exchange.isEnd).length = 1 := by
  intro s start before whole
  have others : ∀ call ∈ before, call.isClose = false := by simp [before, Call.isClose]
  have outcomes : (run s.recording before start).1 = [.ok (), .error (.sql "locked")] := rfl
  obtain ⟨_, _, ⟨ending, copies, record, _, _, rolled, _⟩, silent, once, _⟩ :=
    unit_of_work_atomic s .sqlite {} (.ofMilliseconds 1) ⟨0, []⟩ 0 before [.executeRaw "DELETE FROM c" []] others
  obtain ⟨reply, rfl⟩ := rolled fun succeeded => by
    have failed := succeeded (.error (.sql "locked")) (by rw [outcomes]; simp)
    cases failed
  exact ⟨others, reply, copies, silent.trans record, once⟩

end Work

end RecordMapper
