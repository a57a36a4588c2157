import OrbitalMesh.Authority.AtMostOnce

/-!
# Evidence is not taken back

Whatever programs run over the permit ledger and the authority store, and wherever they die,
what has been recorded stays on record.
-/

namespace OrbitalMesh

open Atomic

/-- What `w` has on record, `w'` has on record as well. -/
structure World.Extends (w w' : World) : Prop where
  permits : ∀ (id : String) record, w.ledger.permits[id]? = some record →
    ∃ record', w'.ledger.permits[id]? = some record' ∧ record'.permit = record.permit ∧
      record.stateHistory <+: record'.stateHistory
  nonces : ∀ nonce id : String, w.ledger.consumedNonces[nonce]? = some id →
    w'.ledger.consumedNonces[nonce]? = some id
  fences : ∀ root : String, (w.ledger.fencedRoots[root]?).isSome = true →
    (w'.ledger.fencedRoots[root]?).isSome = true
  receipts : ∀ (id : String) events, w.authority.events[id]? = some events →
    ∃ new, w'.authority.events[id]? = some (events ++ new)
  finished : ∀ (id : String) record, w.authority.records[id]? = some record →
    record.state = .terminal → w'.authority.records[id]? = some record

variable {u w w' : World} {host : Host} {op : Section} {answer : op.Answer}
  {trace : List WorldEvent} {pool pool' : Pool Section Section.Answer World Unit}

theorem World.Extends.refl (w : World) : w.Extends w where
  permits _ record h := ⟨record, h, rfl, List.prefix_refl _⟩
  nonces _ _ h := h
  fences _ h := h
  receipts _ events h := ⟨[], by simpa using h⟩
  finished _ _ h _ := h

theorem World.Extends.trans (h : u.Extends w) (h' : w.Extends w') : u.Extends w' where
  permits id record hfound := by
    obtain ⟨_, hw, hterms, hhistory⟩ := h.permits id record hfound
    obtain ⟨_, hw', hterms', hhistory'⟩ := h'.permits id _ hw
    exact ⟨_, hw', hterms'.trans hterms, hhistory.trans hhistory'⟩
  nonces nonce id hspent := h'.nonces nonce id (h.nonces nonce id hspent)
  fences root hfenced := h'.fences root (h.fences root hfenced)
  receipts id events hlog := by
    obtain ⟨new, hw⟩ := h.receipts id events hlog
    obtain ⟨more, hw'⟩ := h'.receipts id _ hw
    exact ⟨new ++ more, by rw [hw', List.append_assoc]⟩
  finished id record hfound hstate :=
    h'.finished id record (h.finished id record hfound hstate) hstate

/-- No move of the life cycle starts from the end. -/
theorem RootStep.finished {root root' : AuthorityRoot} {id : String} {record : AuthorityRecord}
    (hstep : RootStep host.sha root root') (h : root.records[id]? = some record)
    (hstate : record.state = .terminal) : root'.records[id]? = some record := by
  cases hstep with
  | stay => exact h
  | @issue request _ _ _ _ _ _ _ hid =>
    have hne : id ≠ request.authorityId := by
      rintro rfl
      rw [hid] at h
      cases h
    rw [Table.get_insert_of_ne _ _ hne]
    exact h
  | @advance current updated _ _ hcurrent _ hmove =>
    have hne : id ≠ updated.authorityId := by
      rintro rfl
      obtain ⟨_, _, _, -, -, -, -, -, -, hmove | ⟨-, hmove⟩⟩ := hmove <;>
        rw [Option.some.inj (hcurrent.symm.trans h), hstate] at hmove <;> cases hmove
    rw [Table.get_insert_of_ne _ _ hne]
    exact h

theorem World.extends_step (hinv : StoreInvariant host.sha w.authority)
    (h : worldStep host op w answer w') : w.Extends w' := by
  obtain ⟨call, new, hledger⟩ : ∃ call new, LedgerStep w.ledger call new w'.ledger := by
    rcases worldStep_ledger h with ⟨hsame, -⟩ | ⟨call, -, hledger⟩
    · exact ⟨.incompleteActions, none, hsame ▸ .read rfl⟩
    · exact ⟨call, _, hledger⟩
  have hroot : RootStep host.sha w.authority w'.authority := by
    rcases worldStep_authority h with hsame | ⟨call, -, hnext⟩
    · exact hsame ▸ .stay
    · exact hnext ▸ hinv.fileNext_step call
  refine ⟨fun id record hfound => ?_, fun nonce id hspent => ?_, fun root hfenced => ?_,
    fun _ _ => hinv.log_grows hroot, fun _ _ => hroot.finished⟩
  · rcases hledger.record_cases hfound with hkept | ⟨updated, _, _, _, hupdated, hmove, -⟩
    · exact ⟨record, hkept, rfl, List.prefix_refl _⟩
    · exact ⟨updated, hupdated, hmove.permit, hmove.history ▸ List.prefix_append _ _⟩
  · rcases hledger.nonce_cases with ⟨hsame, -⟩ | ⟨permit, now, -, hfree, hsame⟩
    · rw [hsame]
      exact hspent
    · have hne : nonce ≠ permit.authorityNonce := by
        rintro rfl
        rw [hfree] at hspent
        cases hspent
      rw [hsame, Table.get_insert_of_ne _ _ hne]
      exact hspent
  · rcases hledger.fence_cases root with hsame | ⟨hnew, -⟩
    · exact hsame.trans hfenced
    · exact hnew

/-- **Evidence is kept** by every interleaving of any programs, between any two of its states. -/
theorem evidence_kept {startable : Program Unit → Prop}
    (hinv : StoreInvariant host.sha pool.state.authority)
    (hrun : PoolRun (worldStep host) startable pool trace pool') :
    pool.state.Extends pool'.state := by
  refine (hrun.invariant (fun v => StoreInvariant host.sha v.authority ∧ pool.state.Extends v)
    ⟨hinv, .refl _⟩ ?_).2
  rintro op v answer v' ⟨hinv, hextends⟩ hstep
  exact ⟨(worldStep_keepsIdentity hstep hinv).1, hextends.trans (World.extends_step hinv hstep)⟩

theorem evidence_kept_sample :
    ∃ trace w, PoolRun (worldStep sampleHost) (PermitMethod sampleHost) ⟨[], sampleWorld⟩
        trace ⟨[], w⟩ ∧
      (w.ledger.permits[(samplePermit "d1" 1).permitId]?).isSome = true ∧
      sampleWorld.Extends w := by
  obtain ⟨trace, w, hrun, hfound⟩ := @calls_run (fun _ _ => True) _
    [(quiet 0 1, ignored (issueFor "d1"))] (PermitMethod sampleHost)
    (by
      simp only [List.mem_singleton, forall_eq]
      exact .issue _ _ _ _ _ _ _)
    (fun w => (w.ledger.permits[(samplePermit "d1" 1).permitId]?).isSome = true) _ sampleWorld
    (by decide +kernel)
  exact ⟨trace, w, unguarded_run hrun, hfound,
    evidence_kept (.empty sampleHost.sha) (unguarded_run hrun)⟩

end OrbitalMesh
