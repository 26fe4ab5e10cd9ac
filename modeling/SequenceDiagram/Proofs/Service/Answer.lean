/-
  SequenceDiagram.Proofs.Service.Answer — which check decides the answer to a request.

  The service runs on any lawful framework that reads the length of the request. There the
  first check that objects decides (`refused_of_deciding`), whatever the checks behind it
  would say: its status, no image, and its message as the one member of a JSON object if
  it has one. A request that no check objects to is answered with its image or, on the
  other route, with the word that the service is up (`Posted.answer_eq`,
  `Greeted.answer_eq`). There is no fourth case, so no other answer holds an image
  (`posted_of_image`).

  What paints and encodes the drawings may be anything, and fail with any of the failures
  there are.
-/

import SequenceDiagram.Proofs.Service.Checks
import SequenceDiagram.Proofs.Service.Dispatch

namespace SequenceDiagram.Service

variable {α ι : Type} [Numeral α] {fw : Framework ι} {limit : Nat} {render : String → Except ImageFailure ι}
  {t : Typesetter α} {paint : String → Size α → Except ImageFailure ι} {r : Request} {c : Check}
  {message : Option String}

open Framework (Lawful ReadsLength)

/-! ## Lengths and bodies -/

theorem declaresOver_iff (hfw : fw.Lawful) (hlength : fw.ReadsLength r.headers) :
    fw.declaresOver limit r = true ↔ ∃ n, r.Declares n ∧ limit < n := by
  simp only [Framework.declaresOver, Option.any_eq_true, decide_eq_true_eq, hfw.declared_eq_some_iff hlength]
  rfl

theorem declaresOver_eq_false_iff (hfw : fw.Lawful) (hlength : fw.ReadsLength r.headers) :
    fw.declaresOver limit r = false ↔ ∀ n, r.Declares n → n ≤ limit := by
  rw [← Bool.not_eq_true, declaresOver_iff hfw hlength]
  simp only [not_exists, not_and, Nat.not_lt]

/-- Behind the check of the declared length, what may be read is the least of the limit and that length. -/
theorem le_longest_iff (hfw : fw.Lawful) (hlength : fw.ReadsLength r.headers) (h : ∀ n, r.Declares n → n ≤ limit)
    {m : Nat} : m ≤ fw.longest limit r ↔ m ≤ limit ∧ ∀ n, r.Declares n → m ≤ n := by
  have hdeclares (n : Nat) : r.Declares n ↔ fw.declared r.headers = some n :=
    (hfw.declared_eq_some_iff hlength).symm
  simp only [hdeclares] at h ⊢
  unfold Framework.longest
  cases hdeclared : fw.declared r.headers with
  | none => simp
  | some n =>
    have hle := h n hdeclared
    simp only [Option.getD_some, Option.some.injEq, forall_eq']
    omega

/-- What becomes of a document that is read whole. -/
theorem renderSequence_document (hfw : fw.Lawful) {text : String} (hbytes : text.toUTF8 = r.body) :
    renderSequence fw render r.body =
      match render text with
      | .ok image => .image "image/png" image
      | .error failure => badRequest fw failure.message := by
  unfold renderSequence
  rw [fromUTF8?_eq_some_iff.mpr hbytes]
  dsimp only
  rw [hfw.spawn_eq]
  cases render text with
  | ok image => exact hfw.ofImage_eq "image/png" image
  | error f => rfl

/-- The answer to a document that gets past the checks of lengths, path and method. -/
theorem answer_posted (hfw : fw.Lawful) (hlength : fw.ReadsLength r.headers) (hseq : fw.ForSequence r)
    (hmethod : r.method = "POST") (h : ∀ n, r.Declares n → n ≤ limit)
    (hbody : r.body.size ≤ limit ∧ ∀ n, r.Declares n → r.body.size ≤ n) :
    fw.answer limit render r = fw.send .post "POST" (renderSequence fw render r.body) := by
  rw [hfw.answer_sequence hseq, (declaresOver_eq_false_iff hfw hlength).mpr h, if_neg Bool.false_ne_true,
    if_pos hmethod, if_pos ((le_longest_iff hfw hlength h).mpr hbody), hmethod]

/-! ## Refusals -/

/-- An answer as a check gives it. -/
structure Refused (c : Check) (message : Option String) (a : Response ι) : Prop where
  refusal : a.Refusal c.status
  told : ∀ said, message = some said → a.contentType = some "application/json" ∧
    ∃ content, a.body = .text content ∧ Text.member? content = some ("error", said)

/-- Sending neither adds an image nor changes what kind of answer it is. -/
theorem Response.Refusal.send (hfw : fw.Lawful) {status : Nat} {a : Response ι} (h : a.Refusal status) (verb : Verb)
    (method : String) : (fw.send verb method a).Refusal status where
  status := (hfw.send_status verb method a).trans h.status
  noImage image hbody := by
    rcases hfw.send_body verb method a with hkept | ⟨-, hempty⟩
    · exact h.noImage image (hkept.symm.trans hbody)
    · rw [hempty] at hbody
      cases hbody
  otherType := by
    rw [hfw.send_contentType]
    exact h.otherType

/-- Only the answer to HEAD loses its body. -/
theorem body_send_post (hfw : fw.Lawful) (a : Response ι) : (fw.send .post "POST" a).body = a.body := by
  rcases hfw.send_body .post "POST" a with hkept | ⟨hhead, -⟩
  · exact hkept
  · exact absurd hhead (by decide)

theorem Refused.silent {a : Response ι} (h : a.Refusal c.status) : Refused c none a := ⟨h, nofun⟩

theorem refused_badRequest (hfw : fw.Lawful) (hc : c.status = 400) (said : String) :
    Refused c (some said) (fw.send .post "POST" (badRequest fw said)) := by
  rw [badRequest, hfw.ofJson_eq]
  set a : Response ι := .json 400 (fw.jsonObject "error" said)
  have hrefusal : a.Refusal c.status := ⟨hc.symm, nofun, by simp [a, Response.json]⟩
  refine ⟨hrefusal.send hfw .post "POST", ?_⟩
  rintro _ ⟨⟩
  exact ⟨hfw.send_contentType .post "POST" a, _, body_send_post hfw a, hfw.member?_jsonObject "error" said⟩

theorem refused_of_over (hfw : fw.Lawful) (hc : c.status = 413) (hover : fw.declaresOver limit r = true) :
    Refused c none (fw.answer limit render r) := by
  have hlarge : fw.tooLarge.Refusal c.status := hc ▸ hfw.tooLarge_refusal
  refine .silent ?_
  by_cases hseq : fw.ForSequence r
  · rw [hfw.answer_sequence hseq, if_pos hover]
    exact hlarge.send hfw ..
  · by_cases hhealth : fw.ForHealth r
    · rw [hfw.answer_health hhealth, if_pos hover]
      exact hlarge.send hfw ..
    · rw [hfw.answer_elsewhere hseq hhealth, if_pos hover]
      exact hlarge

/-- The answer to a document that is read whole, but has no image. -/
theorem refused_of_failed (hfw : fw.Lawful) {text : String} {f : ImageFailure} (hc : c.status = 400)
    (hposted : fw.answer limit render r = fw.send .post "POST" (renderSequence fw render r.body))
    (hbytes : text.toUTF8 = r.body) (hrender : render text = .error f) :
    Refused c (some f.message) (fw.answer limit render r) := by
  rw [hposted, renderSequence_document hfw hbytes, hrender]
  exact refused_badRequest hfw hc f.message

/-- The first check that objects decides the answer. -/
theorem refused_of_deciding (hfw : fw.Lawful) (hlength : fw.ReadsLength r.headers)
    (h : Deciding fw limit t paint r c message) : Refused c message (fw.answer limit (t.imageBy paint) r) := by
  obtain ⟨hobjects, hfirst⟩ := h
  -- what the checks in front of it have let pass
  have hdeclared (hc : 0 < c.rank) : ∀ n, r.Declares n → n ≤ limit :=
    declared_of_passed fun message' => hfirst .declaredLength message' hc
  have hwithin (hc : 0 < c.rank) : ¬ fw.declaresOver limit r = true := by
    rw [(declaresOver_eq_false_iff hfw hlength).mpr (hdeclared hc)]
    exact Bool.false_ne_true
  have hpost (hc : 2 < c.rank) (hseq : fw.ForSequence r) : r.method = "POST" :=
    post_of_passed hseq fun message' => hfirst .method message' hc
  have hposted (hc : 3 < c.rank) (hseq : fw.ForSequence r) :
      fw.answer limit (t.imageBy paint) r = fw.send .post "POST" (renderSequence fw (t.imageBy paint) r.body) :=
    answer_posted hfw hlength hseq (hpost (by omega) hseq) (hdeclared (by omega))
      (length_of_passed hseq fun message' => hfirst .bodyLength message' hc)
  cases hobjects with
  | declaredLength hn hover => exact refused_of_over hfw rfl ((declaresOver_iff hfw hlength).mpr ⟨_, hn, hover⟩)
  | path hseq hhealth =>
    rw [hfw.answer_elsewhere hseq hhealth, if_neg (hwithin (by decide))]
    exact .silent hfw.notFound_refusal
  | notPost hseq hmethod =>
    rw [hfw.answer_sequence hseq, if_neg (hwithin (by decide)), if_neg hmethod]
    exact .silent (hfw.notAllowed_refusal.send hfw ..)
  | notGet hhealth hmethod =>
    rw [hfw.answer_health hhealth, if_neg (hwithin (by decide)), if_neg hmethod]
    exact .silent (hfw.notAllowed_refusal.send hfw ..)
  | bodyLength hseq hover =>
    have hlong : ¬ r.body.size ≤ fw.longest limit r := by
      rw [le_longest_iff hfw hlength (hdeclared (by decide))]
      rintro ⟨hfits, hwhole⟩
      rcases hover with hover | ⟨n, hn, hover⟩
      · omega
      · have := hwhole n hn
        omega
    rw [hfw.answer_sequence hseq, if_neg (hwithin (by decide)), if_pos (hpost (by decide) hseq), if_neg hlong]
    exact .silent (hfw.unbuffered_refusal.send hfw ..)
  | encoding hseq hbytes =>
    have hunread : String.fromUTF8? r.body = none := by
      rw [Option.eq_none_iff_forall_ne_some]
      exact fun text htext => hbytes text (fromUTF8?_eq_some_iff.mp htext)
    rw [hposted (by decide) hseq, renderSequence, hunread]
    exact refused_badRequest hfw rfl _
  | reading hseq hbytes hread =>
    exact refused_of_failed hfw rfl (hposted (by decide) hseq) hbytes (Typesetter.imageBy_of_unread hread)
  | linking hseq hbytes hread hbuild =>
    exact refused_of_failed hfw rfl (hposted (by decide) hseq) hbytes (Typesetter.imageBy_of_unlinked hread hbuild)
  | drawing hseq hbytes hread hbuild hpaint =>
    refine refused_of_failed hfw rfl (hposted (by decide) hseq) hbytes ?_
    rw [Typesetter.imageBy_of_linked hread hbuild, hpaint]

/-! ## The answers no check objects to -/

theorem Posted.answer_eq (hfw : fw.Lawful) (hlength : fw.ReadsLength r.headers) {image : ι}
    (h : Posted fw limit render r image) : fw.answer limit render r = fw.send .post "POST" (.image "image/png" image) := by
  obtain ⟨text, hbytes, hrender⟩ := h.drawn
  rw [answer_posted hfw hlength h.sequence h.method h.declared ⟨h.fits, h.whole⟩,
    renderSequence_document hfw hbytes, hrender]

theorem Posted.body (hfw : fw.Lawful) (hlength : fw.ReadsLength r.headers) {image : ι}
    (h : Posted fw limit render r image) : (fw.answer limit render r).body = .image image := by
  rw [h.answer_eq hfw hlength, body_send_post hfw]
  rfl

theorem Greeted.answer_eq (hfw : fw.Lawful) (hlength : fw.ReadsLength r.headers) (h : Greeted fw limit r) :
    fw.answer limit render r = fw.send .get r.method (alive fw) := by
  rw [hfw.answer_health h.health, (declaresOver_eq_false_iff hfw hlength).mpr h.declared, if_neg Bool.false_ne_true,
    if_pos h.method]

theorem Greeted.refusal (hfw : fw.Lawful) (hlength : fw.ReadsLength r.headers) (h : Greeted fw limit r) :
    (fw.answer limit render r).Refusal 200 := by
  rw [h.answer_eq hfw hlength, alive, hfw.ofText_eq]
  exact (Response.Refusal.plain 200 "ok").send hfw ..

theorem failed_of_objection (h : Objection fw limit t paint r c message) (hc : Check.encoding.rank < c.rank) :
    ∃ (text : String) (f : ImageFailure), text.toUTF8 = r.body ∧ t.imageBy paint text = .error f ∧
      message = some f.message := by
  cases h with
  | reading _ hbytes hread => exact ⟨_, _, hbytes, Typesetter.imageBy_of_unread hread, rfl⟩
  | linking _ hbytes hread hbuild => exact ⟨_, _, hbytes, Typesetter.imageBy_of_unlinked hread hbuild, rfl⟩
  | drawing _ hbytes hread hbuild hpaint =>
    exact ⟨_, _, hbytes, (Typesetter.imageBy_of_linked hread hbuild).trans hpaint, rfl⟩
  | _ => exact absurd hc (by decide)

/-- An answer is a refusal of some status, or that to a posted document with its image. -/
theorem refusal_or_posted (hfw : fw.Lawful) (hlength : fw.ReadsLength r.headers) (limit : Nat) (t : Typesetter α)
    (paint : String → Size α → Except ImageFailure ι) :
    (∃ status, (fw.answer limit (t.imageBy paint) r).Refusal status) ∨
      ∃ image, Posted fw limit (t.imageBy paint) r image := by
  rcases deciding_or_posted_or_greeted fw limit t paint r with ⟨c, message, hdecides⟩ | hposted | hgreeted
  · exact .inl ⟨_, (refused_of_deciding hfw hlength hdecides).refusal⟩
  · exact .inr hposted
  · exact .inl ⟨_, hgreeted.refusal hfw hlength⟩

/-- Only a posted document's image is sent as one. -/
theorem posted_of_image (hfw : fw.Lawful) (hlength : fw.ReadsLength r.headers) {image : ι}
    (h : (fw.answer limit (t.imageBy paint) r).body = .image image) : Posted fw limit (t.imageBy paint) r image := by
  rcases refusal_or_posted hfw hlength limit t paint with ⟨_, hrefusal⟩ | ⟨image', hposted⟩
  · exact absurd h (hrefusal.noImage image)
  · have himage := (hposted.body hfw hlength).symm.trans h
    cases himage
    exact hposted

theorem posted_of_contentType (hfw : fw.Lawful) (hlength : fw.ReadsLength r.headers)
    (h : (fw.answer limit (t.imageBy paint) r).contentType = some "image/png") :
    ∃ image, Posted fw limit (t.imageBy paint) r image := by
  rcases refusal_or_posted hfw hlength limit t paint with ⟨_, hrefusal⟩ | hposted
  · exact absurd h hrefusal.otherType
  · exact hposted

/-- The question is heard unless the length it declares is beyond the limit. -/
theorem status_eq_iff_of_health (hfw : fw.Lawful) (hlength : fw.ReadsLength r.headers) (hhealth : fw.ForHealth r)
    (hmethod : r.method ∈ ["GET", "HEAD"]) :
    (fw.answer limit render r).status = 200 ↔ ∀ n, r.Declares n → n ≤ limit := by
  rw [← declaresOver_eq_false_iff hfw hlength, hfw.answer_health hhealth, if_pos hmethod, hfw.send_status, alive,
    hfw.ofText_eq]
  cases hover : fw.declaresOver limit r with
  | false => exact iff_of_true rfl rfl
  | true =>
    rw [if_pos rfl, hfw.tooLarge_refusal.status]
    exact iff_of_false (by decide) (by decide)

theorem answer_undeclared (hfw : fw.Lawful) (h : ∀ n, ¬ r.Declares n) :
    fw.answer limit render r = fw.answer limit render r.undeclared := by
  refine hfw.answer_congr Iff.rfl Iff.rfl rfl ?_ rfl
  rw [hfw.declared_none _ h, hfw.declared_none _ r.not_declares_undeclared]

theorem answer_slash (hfw : fw.Lawful) {r' : Request} (h : fw.ForSequence r) (h' : fw.ForSequence r')
    (hmethod : r'.method = r.method) (hheaders : r'.headers = r.headers) (hbody : r'.body = r.body) :
    fw.answer limit render r' = fw.answer limit render r := by
  have hhealth {q : Request} (hq : fw.ForSequence q) : ¬ fw.ForHealth q := by
    intro hpath
    rw [Framework.ForSequence, hpath] at hq
    exact absurd hq (by decide)
  exact hfw.answer_congr (iff_of_true h' h) (iff_of_false (hhealth h') (hhealth h)) hmethod (by rw [hheaders]) hbody

/-! ## The decision -/

/-- What decides the answer to a request. -/
structure Decided (fw : Framework ι) (limit : Nat) (t : Typesetter α)
    (paint : String → Size α → Except ImageFailure ι) (r : Request) : Prop where
  /-- An image is the answer to a posted document that has one. -/
  png : (fw.answer limit (t.imageBy paint) r).status = 200 ∧
    (fw.answer limit (t.imageBy paint) r).contentType = some "image/png" ↔
      ∃ image, Posted fw limit (t.imageBy paint) r image
  /-- No other answer holds an image, and this one holds that of the document. -/
  image : ∀ image, (fw.answer limit (t.imageBy paint) r).body = .image image ↔
    Posted fw limit (t.imageBy paint) r image
  /-- A request without an image is refused by a check, or asks for the service's health. -/
  otherwise : (¬ ∃ image, Posted fw limit (t.imageBy paint) r image) →
    (∃ c message, Deciding fw limit t paint r c message) ∨ Greeted fw limit r
  /-- The first check that objects decides. -/
  refused : ∀ c message, Deciding fw limit t paint r c message →
    Refused c message (fw.answer limit (t.imageBy paint) r)
  /-- The checks behind the encoding give the message of the failure. -/
  failed : ∀ c message, Deciding fw limit t paint r c message → Check.encoding.rank < c.rank →
    ∃ (text : String) (f : ImageFailure), text.toUTF8 = r.body ∧ t.imageBy paint text = .error f ∧
      message = some f.message
  health : fw.ForHealth r → r.method ∈ ["GET", "HEAD"] →
    ((fw.answer limit (t.imageBy paint) r).status = 200 ↔ ∀ n, r.Declares n → n ≤ limit)
  /-- A length that declares nothing may as well be missing. -/
  undeclared : (∀ n, ¬ r.Declares n) →
    fw.answer limit (t.imageBy paint) r = fw.answer limit (t.imageBy paint) r.undeclared
  /-- The slash at the end makes no difference. -/
  slash : ∀ r' : Request, fw.ForSequence r → fw.ForSequence r' → r'.method = r.method → r'.headers = r.headers →
    r'.body = r.body → fw.answer limit (t.imageBy paint) r' = fw.answer limit (t.imageBy paint) r

/-- One order of checks decides every answer, whatever paints the drawings and whatever framework it runs on. -/
theorem answer_decided (hfw : fw.Lawful) (limit : Nat) (t : Typesetter α)
    (paint : String → Size α → Except ImageFailure ι) (hlength : fw.ReadsLength r.headers) :
    Decided fw limit t paint r := by
  refine ⟨?png, ?image, ?otherwise, fun _ _ => refused_of_deciding hfw hlength,
    fun _ _ h => failed_of_objection h.objects, status_eq_iff_of_health hfw hlength, answer_undeclared hfw,
    fun _ => answer_slash hfw⟩
  case png =>
    constructor
    · intro h
      exact posted_of_contentType hfw hlength h.2
    · intro h
      obtain ⟨image, hposted⟩ := h
      rw [hposted.answer_eq hfw hlength]
      exact ⟨hfw.send_status .., hfw.send_contentType ..⟩
  case image =>
    intro image
    exact ⟨posted_of_image hfw hlength, fun hposted => hposted.body hfw hlength⟩
  case otherwise =>
    intro hnone
    rcases deciding_or_posted_or_greeted fw limit t paint r with hdecides | hposted | hgreeted
    · exact .inl hdecides
    · exact absurd hposted hnone
    · exact .inr hgreeted

/-- The service as it runs sizes its images. -/
theorem answer_image (limit : Nat) (t : Typesetter Float) (r : Request) :
    answer limit t.image r =
      Framework.standard.answer limit
        (t.imageBy fun svg canvas => (ImageSize.ofDrawing svg canvas).mapError .unpainted) r :=
  congrArg (Framework.standard.answer limit · r) (funext t.image_eq)

/-- A document of nine bytes that declares eight. -/
def cutShort : Request where
  method := "POST"
  target := "/api/v1/sequence"
  headers := [("content-length", "8")]
  body := "A->B:xyzw".toUTF8

theorem answer_decided_cutShort :
    (Framework.standard : Framework ImageSize).Lawful ∧
      (Framework.standard : Framework ImageSize).ReadsLength cutShort.headers ∧
      (answer 60 (Typesetter.default : Typesetter Float).image cutShort).status = 413 := by
  have hread : Call.declared cutShort.headers = some 8 := by decide
  have height : cutShort.Declares 8 := (Call.declared_eq_some_iff.mp hread).1
  have hall (n : Nat) (hn : cutShort.Declares n) : n = 8 := by
    obtain ⟨value, hvalue, hnumber⟩ := hn
    obtain rfl : "8" = value := by simpa [cutShort] using hvalue
    have hdecimal : decimal? "8".toList = some 8 := by decide
    exact Option.some.inj (((isNumber_iff (by simp)).mp hnumber).symm.trans hdecimal)
  have hlength : (Framework.standard : Framework ImageSize).ReadsLength cutShort.headers := by
    intro n hn
    rw [hall n hn]
    exact hread
  have hdecided := answer_decided Framework.standard_lawful 60 (Typesetter.default : Typesetter Float)
    (fun svg canvas => (ImageSize.ofDrawing svg canvas).mapError .unpainted) hlength
  have hseq : (Framework.standard : Framework ImageSize).ForSequence cutShort := by decide +kernel
  refine ⟨Framework.standard_lawful, hlength, ?_⟩
  rw [answer_image]
  refine (hdecided.refused .bodyLength none ⟨.bodyLength hseq (.inr ⟨8, height, by decide +kernel⟩), ?_⟩).refusal.status
  rintro c' message' hrank hobjects
  cases hobjects with
  | declaredLength hn hover =>
    rw [hall _ hn] at hover
    exact absurd hover (by decide)
  | path hnot => exact hnot hseq
  | notPost _ hmethod => exact hmethod rfl
  | notGet hhealth => exact absurd hhealth (by decide +kernel)
  | _ => exact absurd hrank (by decide)

end SequenceDiagram.Service
