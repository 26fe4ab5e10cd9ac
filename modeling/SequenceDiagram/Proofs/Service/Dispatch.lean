/-
  SequenceDiagram.Proofs.Service.Dispatch — the order in which a request is decided upon.

  The order follows from how the service is put together (`app`). The limit on bodies is
  around all endpoints and around the answer at other paths, so it comes first
  (`around_app`). Then the path decides on the endpoint and the method on the handler. The
  bytes of a body are read for the handler of documents alone, when all this is decided,
  and no more of them than the limit and the declared length let through. That gives one
  equation for each of the two endpoints and one for all other paths (`answer_sequence`,
  `answer_health`, `answer_elsewhere`).
-/

import SequenceDiagram.Proofs.Service.Lawful

namespace SequenceDiagram.Service.Framework

variable {ι : Type} {fw : Framework ι} {limit : Nat} {render : String → Except ImageFailure ι} {r : Request}

/-! ## Through the layers -/

/-- The declared length is beyond the limit. -/
def declaresOver (fw : Framework ι) (limit : Nat) (r : Request) : Bool := (fw.declared r.headers).any (limit < ·)

/-- The bytes that may be read of a body. -/
def longest (fw : Framework ι) (limit : Nat) (r : Request) : Nat := (fw.declared r.headers).getD limit

/-- A request that the layers have let through. -/
def admitted (fw : Framework ι) (limit : Nat) (r : Request) : fw.Call :=
  fw.liftDefault (fw.limitBody (fw.longest limit r) (fw.receive r))

theorem Lawful.around_app (hfw : fw.Lawful) (handler : fw.Call → Response ι) :
    (app fw limit render).around handler (fw.receive r) =
      if fw.declaresOver limit r then fw.tooLarge else handler (fw.admitted limit r) := by
  -- the first layer is the innermost
  show fw.trace (fw.bodyLimit limit (fw.disableDefaultLimit handler)) (fw.receive r) = _
  rw [hfw.trace_eq]
  unfold declaresOver admitted longest
  cases hdeclared : fw.declared r.headers with
  | none =>
    rw [hfw.bodyLimit_undeclared _ _ _ hdeclared, hfw.disableDefaultLimit_eq]
    rfl
  | some n =>
    rw [Option.any_some, Option.getD_some]
    by_cases hover : limit < n
    · rw [hfw.bodyLimit_over _ _ _ _ hdeclared hover, if_pos (decide_eq_true hover)]
    · rw [hfw.bodyLimit_within _ _ _ _ hdeclared (Nat.le_of_not_lt hover), hfw.disableDefaultLimit_eq,
        if_neg (by simpa using hover)]

theorem Lawful.withBytes_admitted (hfw : fw.Lawful) (handler : ByteArray → Response ι) :
    fw.withBytes handler (fw.admitted limit r) =
      if r.body.size ≤ fw.longest limit r then handler r.body else fw.unbuffered := by
  have hbody : fw.body? (fw.limitBody (fw.longest limit r) (fw.receive r)) =
      if r.body.size ≤ fw.longest limit r then some r.body else none := by
    rw [hfw.body?_limitBody, hfw.body?_receive, Option.filter_some]
    simp only [decide_eq_true_eq]
  by_cases hfits : r.body.size ≤ fw.longest limit r
  · rw [if_pos hfits] at hbody ⊢
    exact hfw.withBytes_read _ _ _ hbody
  · rw [if_neg hfits] at hbody ⊢
    exact hfw.withBytes_unread _ _ hbody

/-! ## To the endpoints -/

theorem app_wellFormed (fw : Framework ι) (limit : Nat) (render : String → Except ImageFailure ι) :
    (app fw limit render).WellFormed where
  plain := by
    have hall : ∀ path ∈ (app fw limit render).endpoints.map (·.path), IsPlainPath path := by
      show ∀ path ∈ ["/api/v1/sequence/", "/api/v1/sequence", "/healthz"], IsPlainPath path
      decide
    exact fun e he => hall e.path (List.mem_map_of_mem he)
  distinct := by
    show ["/api/v1/sequence/", "/api/v1/sequence", "/healthz"].Nodup
    decide

theorem Lawful.answer_sequence (hfw : fw.Lawful) (h : fw.ForSequence r) :
    fw.answer limit render r = fw.send .post r.method
      (if fw.declaresOver limit r then fw.tooLarge
        else if r.method = "POST" then
          if r.body.size ≤ fw.longest limit r then renderSequence fw render r.body else fw.unbuffered
        else fw.notAllowed) := by
  have hendpoint : ∃ e ∈ (app fw limit render).endpoints, fw.pathOf r.target = e.path ∧ e.verb = .post ∧
      e.handler = fw.withBytes (renderSequence fw render) := by
    rcases List.mem_pair.mp h with hpath | hpath
    · exact ⟨_, List.mem_cons_of_mem _ List.mem_cons_self, hpath, rfl, rfl⟩
    · exact ⟨_, List.mem_cons_self, hpath, rfl, rfl⟩
  obtain ⟨e, he, hpath, hverb, hhandler⟩ := hendpoint
  rw [answer, hfw.serve_endpoint _ e r (app_wellFormed fw limit render) he hpath, hfw.around_app, hverb, hhandler]
  by_cases hmethod : r.method = "POST"
  · rw [if_pos ((hfw.takes_post _).mpr hmethod), if_pos hmethod, hfw.withBytes_admitted]
  · rw [if_neg (mt (hfw.takes_post _).mp hmethod), if_neg hmethod]

theorem Lawful.answer_health (hfw : fw.Lawful) (h : fw.ForHealth r) :
    fw.answer limit render r = fw.send .get r.method
      (if fw.declaresOver limit r then fw.tooLarge
        else if r.method ∈ ["GET", "HEAD"] then alive fw else fw.notAllowed) := by
  have hmem : (⟨"/healthz", .get, fun _ => alive fw⟩ : Endpoint fw.Call ι) ∈ (app fw limit render).endpoints :=
    List.mem_cons_of_mem _ (List.mem_cons_of_mem _ List.mem_cons_self)
  rw [answer, hfw.serve_endpoint _ _ r (app_wellFormed fw limit render) hmem h, hfw.around_app]
  by_cases hmethod : r.method ∈ ["GET", "HEAD"]
  · rw [if_pos ((hfw.takes_get _).mpr hmethod), if_pos hmethod]
  · rw [if_neg (mt (hfw.takes_get _).mp hmethod), if_neg hmethod]

theorem Lawful.answer_elsewhere (hfw : fw.Lawful) (hseq : ¬ fw.ForSequence r) (hhealth : ¬ fw.ForHealth r) :
    fw.answer limit render r = if fw.declaresOver limit r then fw.tooLarge else fw.notFound := by
  have hpath : fw.pathOf r.target ∉ (app fw limit render).endpoints.map (·.path) := by
    intro h
    rcases List.mem_cons.mp h with h | h
    · exact hseq (List.mem_pair.mpr (.inr h))
    · rcases List.mem_pair.mp h with h | h
      · exact hseq (List.mem_pair.mpr (.inl h))
      · exact hhealth h
  rw [answer, hfw.serve_elsewhere _ r (app_wellFormed fw limit render) hpath, hfw.around_app]

/-- Of a request the answer depends on its endpoint, its method, the length it declares and its body. -/
theorem Lawful.answer_congr (hfw : fw.Lawful) {r' : Request} (hseq : fw.ForSequence r' ↔ fw.ForSequence r)
    (hhealth : fw.ForHealth r' ↔ fw.ForHealth r) (hmethod : r'.method = r.method)
    (hdeclared : fw.declared r'.headers = fw.declared r.headers) (hbody : r'.body = r.body) :
    fw.answer limit render r' = fw.answer limit render r := by
  have hover : fw.declaresOver limit r' = fw.declaresOver limit r := by rw [declaresOver, hdeclared, declaresOver]
  have hlongest : fw.longest limit r' = fw.longest limit r := by rw [longest, hdeclared, longest]
  by_cases h : fw.ForSequence r
  · rw [hfw.answer_sequence h, hfw.answer_sequence (hseq.mpr h), hover, hlongest, hmethod, hbody]
  · by_cases h' : fw.ForHealth r
    · rw [hfw.answer_health h', hfw.answer_health (hhealth.mpr h'), hover, hmethod]
    · rw [hfw.answer_elsewhere h h', hfw.answer_elsewhere (mt hseq.mp h) (mt hhealth.mp h'), hover]

end SequenceDiagram.Service.Framework
