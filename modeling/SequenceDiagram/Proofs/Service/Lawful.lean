/-
  SequenceDiagram.Proofs.Service.Lawful — what a framework does by its documentation.

  A framework is lawful (`Framework.Lawful`) when its parts do what they are documented to
  do: layers go around what was there before them, the limit on bodies answers by itself
  or bounds what can be read, a handler gets the whole body or is not asked, and a request
  gets to the endpoint at its path if that takes its method. An answer that a handler asks
  for is made as it says. Of those that a framework gives by itself only the status is
  known, and that they hold no image.

  A length that a request declares is read by its number (`Framework.ReadsLength`). This
  is asked apart from the rest and for the headers at hand, since the standard framework,
  which is lawful (`standard_lawful`), does so for numbers of 64 bits and for no others
  (`standard_readsLength_iff`).
-/

import Mathlib.Data.List.Nodup
import SequenceDiagram.Proofs.Service.Requests
import SequenceDiagram.Proofs.Text.JsonObject

namespace SequenceDiagram.Service

variable {χ ι : Type} {status : Nat}

/-! ## Answers and applications -/

/-- An answer of a status without an image. -/
structure Response.Refusal (status : Nat) (a : Response ι) : Prop where
  status : a.status = status
  noImage : ∀ image, a.body ≠ .image image
  otherType : a.contentType ≠ some "image/png"

/-- A path that stands for itself alone: slashes, and letters and digits between. -/
def IsPlainPath (path : String) : Prop :=
  path.toList.head? = some '/' ∧ ∀ c ∈ path.toList, c.isAlphanum ∨ c = '/'

instance (path : String) : Decidable (IsPlainPath path) := @instDecidableAnd _ _ _ (List.decidableBAll _ _)

structure App.WellFormed (a : App χ ι) : Prop where
  plain : ∀ e ∈ a.endpoints, IsPlainPath e.path
  distinct : (a.endpoints.map (·.path)).Nodup

/-! ## Laws -/

namespace Framework

structure Lawful (fw : Framework ι) : Prop where
  /-- A length that is missing, or is no number, is not declared. -/
  declared_none : ∀ headers, (∀ n, ¬ DeclaresLength headers n) → fw.declared headers = none
  /-- A body can be read to its end, as long as nothing forbids it. -/
  body?_receive : ∀ r, fw.body? (fw.receive r) = some r.body
  /-- Reading fails when the body is longer than the limit set for it. -/
  body?_limitBody : ∀ n c, fw.body? (fw.limitBody n c) = (fw.body? c).filter (·.size ≤ n)
  /-- The limit on bodies answers to a greater length before any handler is asked. -/
  bodyLimit_over : ∀ limit handler r n, fw.declared r.headers = some n → limit < n →
    fw.bodyLimit limit handler (fw.receive r) = fw.tooLarge
  /-- Of a length within the limit no more than that is read. -/
  bodyLimit_within : ∀ limit handler r n, fw.declared r.headers = some n → n ≤ limit →
    fw.bodyLimit limit handler (fw.receive r) = handler (fw.limitBody n (fw.receive r))
  bodyLimit_undeclared : ∀ limit handler r, fw.declared r.headers = none →
    fw.bodyLimit limit handler (fw.receive r) = handler (fw.limitBody limit (fw.receive r))
  disableDefaultLimit_eq : ∀ handler c, fw.disableDefaultLimit handler c = handler (fw.liftDefault c)
  /-- Writing to the log changes neither requests nor responses. -/
  trace_eq : ∀ handler c, fw.trace handler c = handler c
  /-- A handler is given the whole body, whatever its length when there is no bound. -/
  withBytes_read : ∀ handler c bytes, fw.body? c = some bytes → fw.withBytes handler (fw.liftDefault c) = handler bytes
  /-- It is not asked when the body cannot be read. -/
  withBytes_unread : ∀ handler c, fw.body? c = none → fw.withBytes handler (fw.liftDefault c) = fw.unbuffered
  /-- A task that does not break down is waited for. -/
  spawn_eq : ∀ task, fw.spawn task = some task
  /-- The member can be read in the object. -/
  member?_jsonObject : ∀ name value, Text.member? (fw.jsonObject name value) = some (name, value)
  ofText_eq : ∀ content, fw.ofText content = .plain 200 content
  ofJson_eq : ∀ status content, fw.ofJson status content = .json status content
  ofImage_eq : ∀ contentType content, fw.ofImage contentType content = .image contentType content
  tooLarge_refusal : fw.tooLarge.Refusal 413
  unbuffered_refusal : fw.unbuffered.Refusal 413
  notFound_refusal : fw.notFound.Refusal 404
  notAllowed_refusal : fw.notAllowed.Refusal 405
  takes_post : ∀ method, fw.takes .post method = true ↔ method = "POST"
  /-- What can be asked for with GET can be asked for with HEAD. -/
  takes_get : ∀ method, fw.takes .get method = true ↔ method ∈ ["GET", "HEAD"]
  send_status : ∀ verb method a, (fw.send verb method a).status = a.status
  send_contentType : ∀ verb method a, (fw.send verb method a).contentType = a.contentType
  /-- The answer to HEAD may lose its body. -/
  send_body : ∀ verb method a, (fw.send verb method a).body = a.body ∨
    method = "HEAD" ∧ (fw.send verb method a).body = .text ""
  /-- The layers are around the handlers of an endpoint, and around the answer to methods it does not take. -/
  serve_endpoint : ∀ (a : App fw.Call ι) e r, a.WellFormed → e ∈ a.endpoints → fw.pathOf r.target = e.path →
    fw.serve a r = fw.send e.verb r.method
      (a.around (if fw.takes e.verb r.method then e.handler else fun _ => fw.notAllowed) (fw.receive r))
  /-- They are also around the answer at other paths. -/
  serve_elsewhere : ∀ (a : App fw.Call ι) r, a.WellFormed → fw.pathOf r.target ∉ a.endpoints.map (·.path) →
    fw.serve a r = a.around (fun _ => fw.notFound) (fw.receive r)

/-- A number that the headers give as the length is read as this number. -/
def ReadsLength (fw : Framework ι) (headers : List (String × String)) : Prop :=
  ∀ n, DeclaresLength headers n → fw.declared headers = some n

theorem Lawful.declared_eq_some_iff {fw : Framework ι} (hfw : fw.Lawful) {headers : List (String × String)}
    (h : fw.ReadsLength headers) {n : Nat} : fw.declared headers = some n ↔ DeclaresLength headers n := by
  refine ⟨fun hn => ?_, h n⟩
  by_cases hnone : ∀ m, ¬ DeclaresLength headers m
  · rw [hfw.declared_none headers hnone] at hn
    cases hn
  · obtain ⟨m, hm⟩ := not_forall_not.mp hnone
    obtain rfl := Option.some.inj ((h m hm).symm.trans hn)
    exact hm

end Framework

/-! ## The standard framework -/

namespace Response

theorem Refusal.empty (status : Nat) : (Response.empty status : Response ι).Refusal status := ⟨rfl, nofun, nofun⟩

theorem Refusal.plain (status : Nat) (content : String) : (Response.plain status content : Response ι).Refusal status :=
  ⟨rfl, nofun, by simp [Response.plain]⟩

end Response

namespace Call

variable {limit n : Nat} {handler : Call → Response ι} {r : Request}

theorem body?_limitBody (n : Nat) (c : Call) : (c.limitBody n).body? = c.body?.filter (·.size ≤ n) := by
  obtain ⟨r, limit, bound⟩ := c
  unfold body? limitBody
  cases limit with
  | none => grind
  | some m => grind

theorem bodyLimit_over (hn : declared r.headers = some n) (hover : limit < n) :
    bodyLimit limit handler (receive r) = .tooLarge := by
  unfold bodyLimit receive
  rw [hn]
  exact if_pos hover

theorem bodyLimit_within (hn : declared r.headers = some n) (hle : n ≤ limit) :
    bodyLimit limit handler (receive r) = handler ((receive r).limitBody n) := by
  unfold bodyLimit receive
  rw [hn]
  exact (if_neg (Nat.not_lt_of_le hle)).trans (by rw [Nat.min_eq_right hle])

theorem bodyLimit_undeclared (h : declared r.headers = none) :
    bodyLimit limit handler (receive r) = handler ((receive r).limitBody limit) := by
  unfold bodyLimit receive
  rw [h]

theorem withBytes_read {handler : ByteArray → Response ι} {c : Call} {bytes : ByteArray} (h : c.body? = some bytes) :
    withBytes handler c.liftDefault = handler bytes := by
  have hbody : c.liftDefault.body? = some bytes := h
  unfold withBytes
  rw [hbody]
  exact if_neg Bool.false_ne_true

theorem withBytes_unread {handler : ByteArray → Response ι} {c : Call} (h : c.body? = none) :
    withBytes handler c.liftDefault = .unbuffered := by
  have hbody : c.liftDefault.body? = none := h
  unfold withBytes
  rw [hbody]

end Call

namespace App

variable {a : App Call ι} {e : Endpoint Call ι} {r : Request}

theorem find?_endpoint (h : a.WellFormed) (he : e ∈ a.endpoints) : a.endpoints.find? (·.path == e.path) = some e := by
  cases hfind : a.endpoints.find? (·.path == e.path) with
  | none => exact absurd (List.find?_eq_none.mp hfind e he) (by simp)
  | some e' =>
    have hpath : e'.path = e.path := by simpa using List.find?_some hfind
    rw [List.inj_on_of_nodup_map h.distinct (List.mem_of_find?_eq_some hfind) he hpath]

theorem serve_endpoint (h : a.WellFormed) (he : e ∈ a.endpoints) (hpath : pathOf r.target = e.path) :
    a.serve r = e.verb.send r.method
      (a.around (if e.verb.takes r.method then e.handler else fun _ => .empty 405) (Call.receive r)) := by
  unfold serve
  rw [hpath, find?_endpoint h he]

theorem serve_elsewhere (hpath : pathOf r.target ∉ a.endpoints.map (·.path)) :
    a.serve r = a.around (fun _ => .empty 404) (Call.receive r) := by
  have hfind : a.endpoints.find? (·.path == pathOf r.target) = none := by
    rw [List.find?_eq_none]
    intro e he heq
    exact hpath (List.mem_map.mpr ⟨e, he, by simpa using heq⟩)
  unfold serve
  rw [hfind]

end App

theorem Verb.send_body (verb : Verb) (method : String) (a : Response ι) :
    (verb.send method a).body = a.body ∨ method = "HEAD" ∧ (verb.send method a).body = .text "" := by
  by_cases h : method = "HEAD"
  · exact .inr ⟨h, if_pos h⟩
  · exact .inl (if_neg h)

namespace Framework

theorem standard_lawful : (standard : Framework ι).Lawful where
  declared_none headers h := by
    rw [Option.eq_none_iff_forall_ne_some]
    exact fun n hn => h n (Call.declared_eq_some_iff.mp hn).1
  body?_receive _ := rfl
  body?_limitBody := Call.body?_limitBody
  bodyLimit_over _ _ _ _ := Call.bodyLimit_over
  bodyLimit_within _ _ _ _ := Call.bodyLimit_within
  bodyLimit_undeclared _ _ _ := Call.bodyLimit_undeclared
  disableDefaultLimit_eq _ _ := rfl
  trace_eq _ _ := rfl
  withBytes_read _ _ _ := Call.withBytes_read
  withBytes_unread _ _ := Call.withBytes_unread
  spawn_eq _ := rfl
  member?_jsonObject name value :=
    Text.member?_object (Text.isLiteral_jsonString name) (Text.isLiteral_jsonString value)
  ofText_eq _ := rfl
  ofJson_eq _ _ := rfl
  ofImage_eq _ _ := rfl
  tooLarge_refusal := .plain 413 _
  unbuffered_refusal := .plain 413 _
  notFound_refusal := .empty 404
  notAllowed_refusal := .empty 405
  takes_post method := by simp [standard, Verb.takes, Verb.methods]
  takes_get method := by simp [standard, Verb.takes, Verb.methods]
  send_status _ _ _ := rfl
  send_contentType _ _ _ := rfl
  send_body := Verb.send_body
  serve_endpoint _ _ _ := App.serve_endpoint
  serve_elsewhere _ _ _ := App.serve_elsewhere

theorem standard_readsLength_iff {headers : List (String × String)} :
    (standard : Framework ι).ReadsLength headers ↔ ∀ n, DeclaresLength headers n → n < Nat.pow 2 64 := by
  constructor
  · intro h n hn
    exact (Call.declared_eq_some_iff.mp (h n hn)).2
  · intro h n hn
    exact Call.declared_eq_some_iff.mpr ⟨hn, h n hn⟩

end Framework

end SequenceDiagram.Service
