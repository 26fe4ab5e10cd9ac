/-
  SequenceDiagram.Proofs.Service.Checks — what is checked of a request.

  The checks have an order (`Check.rank`), and each says of a request whether it objects
  and with which message (`Objection`). Reading, linking and drawing are the stages of an
  image, and object with what they fail with. Either some check is the first that objects,
  or the request is a posted document with its image, or it asks for the service's health
  (`deciding_or_posted_or_greeted`).
-/

import SequenceDiagram.Proofs.Service.Requests
import SequenceDiagram.Typesetter

namespace SequenceDiagram

/-! ## The stages of an image -/

namespace Typesetter

variable {α ι : Type}

theorem image_eq (t : Typesetter Float) (text : String) : (t.image text).mapError .unpainted =
    t.imageBy (fun svg canvas => (ImageSize.ofDrawing svg canvas).mapError .unpainted) text := by
  unfold image imageBy
  -- kept closed: the cases hold for every size
  generalize ImageSize.ofDrawing = size
  cases t.layout text with
  | error f => rfl
  | ok placed => rfl

variable [Numeral α]

/-- What a linked document is drawn as, painted. -/
def painted (paint : String → Size α → Except ImageFailure ι) (t : Typesetter α) (d : Diagram) :
    Except ImageFailure ι :=
  paint (draw t.style d (d.place t.style t.metrics)) (d.place t.style t.metrics).canvas

variable {paint : String → Size α → Except ImageFailure ι} {t : Typesetter α} {text : String}
  {ss : List Numbered} {f : Failure}

theorem imageBy_of_unread (h : Document.read text = .error f) : t.imageBy paint text = .error (.unpainted f) := by
  unfold imageBy layout Diagram.read
  rw [h]
  rfl

theorem imageBy_of_unlinked (h : Document.read text = .ok ss) (hb : Diagram.build ss = .error f) :
    t.imageBy paint text = .error (.unpainted f) := by
  unfold imageBy layout Diagram.read
  rw [h]
  show (((Diagram.build ss).bind _).mapError _).bind _ = _
  rw [hb]
  rfl

theorem imageBy_of_linked {d : Diagram} (h : Document.read text = .ok ss) (hb : Diagram.build ss = .ok d) :
    t.imageBy paint text = painted paint t d := by
  unfold imageBy layout Diagram.read
  rw [h]
  show (((Diagram.build ss).bind _).mapError _).bind _ = _
  rw [hb]
  rfl

end Typesetter

namespace Service

/-! ## Checks -/

/-- What is checked of a request. -/
inductive Check where
  | declaredLength
  | path
  | method
  | bodyLength
  | encoding
  | reading
  | linking
  | drawing

namespace Check

/-- The place of a check among the others. -/
def rank : Check → Nat
  | declaredLength => 0
  | path => 1
  | method => 2
  | bodyLength => 3
  | encoding => 4
  | reading => 5
  | linking => 6
  | drawing => 7

/-- The status of the answers to requests the check objects to. -/
def status : Check → Nat
  | declaredLength => 413
  | path => 404
  | method => 405
  | bodyLength => 413
  | encoding => 400
  | reading => 400
  | linking => 400
  | drawing => 400

end Check

variable {α ι : Type} [Numeral α]

/-- A check objects to a request, and the message it gives if it gives one. -/
inductive Objection (fw : Framework ι) (limit : Nat) (t : Typesetter α)
    (paint : String → Size α → Except ImageFailure ι) (r : Request) : Check → Option String → Prop
  | declaredLength {n : Nat} (hn : r.Declares n) (hover : limit < n) :
      Objection fw limit t paint r .declaredLength none
  | path (hseq : ¬ fw.ForSequence r) (hhealth : ¬ fw.ForHealth r) : Objection fw limit t paint r .path none
  | notPost (hseq : fw.ForSequence r) (hmethod : r.method ≠ "POST") : Objection fw limit t paint r .method none
  | notGet (hhealth : fw.ForHealth r) (hmethod : r.method ∉ ["GET", "HEAD"]) :
      Objection fw limit t paint r .method none
  | bodyLength (hseq : fw.ForSequence r) (hover : limit < r.body.size ∨ ∃ n, r.Declares n ∧ n < r.body.size) :
      Objection fw limit t paint r .bodyLength none
  | encoding (hseq : fw.ForSequence r) (hbytes : ∀ text : String, text.toUTF8 ≠ r.body) :
      Objection fw limit t paint r .encoding (some "request body is not valid UTF-8")
  | reading {text : String} {f : Failure} (hseq : fw.ForSequence r) (hbytes : text.toUTF8 = r.body)
      (hread : Document.read text = .error f) : Objection fw limit t paint r .reading (some f.message)
  | linking {text : String} {ss : List Numbered} {f : Failure} (hseq : fw.ForSequence r)
      (hbytes : text.toUTF8 = r.body) (hread : Document.read text = .ok ss) (hbuild : Diagram.build ss = .error f) :
      Objection fw limit t paint r .linking (some f.message)
  | drawing {text : String} {ss : List Numbered} {d : Diagram} {f : ImageFailure} (hseq : fw.ForSequence r)
      (hbytes : text.toUTF8 = r.body) (hread : Document.read text = .ok ss) (hbuild : Diagram.build ss = .ok d)
      (hpaint : t.painted paint d = .error f) : Objection fw limit t paint r .drawing (some f.message)

/-- A check objects, and none in front of it does. -/
structure Deciding (fw : Framework ι) (limit : Nat) (t : Typesetter α)
    (paint : String → Size α → Except ImageFailure ι) (r : Request) (c : Check) (message : Option String) : Prop where
  objects : Objection fw limit t paint r c message
  first : ∀ c' message', c'.rank < c.rank → ¬ Objection fw limit t paint r c' message'

/-- A document posted for its image, which is there. -/
structure Posted (fw : Framework ι) (limit : Nat) (render : String → Except ImageFailure ι) (r : Request)
    (image : ι) : Prop where
  method : r.method = "POST"
  sequence : fw.ForSequence r
  declared : ∀ n, r.Declares n → n ≤ limit
  fits : r.body.size ≤ limit
  whole : ∀ n, r.Declares n → r.body.size ≤ n
  drawn : ∃ text : String, text.toUTF8 = r.body ∧ render text = .ok image

/-- A question whether the service is up that is heard. -/
structure Greeted (fw : Framework ι) (limit : Nat) (r : Request) : Prop where
  health : fw.ForHealth r
  method : r.method ∈ ["GET", "HEAD"]
  declared : ∀ n, r.Declares n → n ≤ limit

variable {fw : Framework ι} {limit : Nat} {t : Typesetter α} {paint : String → Size α → Except ImageFailure ι}
  {r : Request} {c : Check} {message : Option String}

/-- Where some check objects, one is the first. -/
theorem exists_deciding (h : Objection fw limit t paint r c message) :
    ∃ c message, Deciding fw limit t paint r c message := by
  -- by the rank of a check that objects, going to one in front of it while there is one
  induction hrank : c.rank using Nat.strongRecOn generalizing c message with
  | ind k ih =>
    by_cases hearlier : ∃ c' message', c'.rank < c.rank ∧ Objection fw limit t paint r c' message'
    · obtain ⟨c', message', hlt, h'⟩ := hearlier
      exact ih c'.rank (hrank ▸ hlt) h' rfl
    · exact ⟨c, message, h, fun c' message' hlt h' => hearlier ⟨c', message', hlt, h'⟩⟩

/-! ## What no check objects to -/

theorem declared_of_passed (h : ∀ message, ¬ Objection fw limit t paint r .declaredLength message) :
    ∀ n, r.Declares n → n ≤ limit :=
  fun _ hn => Nat.le_of_not_lt fun hover => h _ (.declaredLength hn hover)

theorem post_of_passed (hseq : fw.ForSequence r) (h : ∀ message, ¬ Objection fw limit t paint r .method message) :
    r.method = "POST" :=
  Classical.byContradiction fun hmethod => h _ (.notPost hseq hmethod)

theorem length_of_passed (hseq : fw.ForSequence r) (h : ∀ message, ¬ Objection fw limit t paint r .bodyLength message) :
    r.body.size ≤ limit ∧ ∀ n, r.Declares n → r.body.size ≤ n :=
  ⟨Nat.le_of_not_lt fun hover => h _ (.bodyLength hseq (.inl hover)),
    fun n hn => Nat.le_of_not_lt fun hover => h _ (.bodyLength hseq (.inr ⟨n, hn, hover⟩))⟩

/-- A document that reading, linking and drawing pass has an image. -/
theorem exists_image_of_passed {text : String} (hseq : fw.ForSequence r) (hbytes : text.toUTF8 = r.body)
    (h : ∀ c message, ¬ Objection fw limit t paint r c message) : ∃ image, t.imageBy paint text = .ok image := by
  cases hread : Document.read text with
  | error f => exact absurd (.reading hseq hbytes hread) (h _ _)
  | ok ss =>
    cases hbuild : Diagram.build ss with
    | error f => exact absurd (.linking hseq hbytes hread hbuild) (h _ _)
    | ok d =>
      rw [Typesetter.imageBy_of_linked hread hbuild]
      cases hpaint : t.painted paint d with
      | error f => exact absurd (.drawing hseq hbytes hread hbuild hpaint) (h _ _)
      | ok image => exact ⟨image, rfl⟩

theorem posted_or_greeted_of_passed (h : ∀ c message, ¬ Objection fw limit t paint r c message) :
    (∃ image, Posted fw limit (t.imageBy paint) r image) ∨ Greeted fw limit r := by
  have hdeclared := declared_of_passed (h .declaredLength)
  by_cases hseq : fw.ForSequence r
  · obtain ⟨hfits, hwhole⟩ := length_of_passed hseq (h .bodyLength)
    have hbytes : ∃ text : String, text.toUTF8 = r.body :=
      Classical.byContradiction fun hnone => h _ _ (.encoding hseq fun text htext => hnone ⟨text, htext⟩)
    obtain ⟨text, hbytes⟩ := hbytes
    obtain ⟨image, himage⟩ := exists_image_of_passed hseq hbytes h
    exact .inl ⟨image, post_of_passed hseq (h .method), hseq, hdeclared, hfits, hwhole, text, hbytes, himage⟩
  · have hhealth : fw.ForHealth r := Classical.byContradiction fun hhealth => h _ _ (.path hseq hhealth)
    have hmethod : r.method ∈ ["GET", "HEAD"] :=
      Classical.byContradiction fun hmethod => h _ _ (.notGet hhealth hmethod)
    exact .inr ⟨hhealth, hmethod, hdeclared⟩

/-- A check decides, or the request is one of the two kinds no check objects to. -/
theorem deciding_or_posted_or_greeted (fw : Framework ι) (limit : Nat) (t : Typesetter α)
    (paint : String → Size α → Except ImageFailure ι) (r : Request) :
    (∃ c message, Deciding fw limit t paint r c message) ∨
      (∃ image, Posted fw limit (t.imageBy paint) r image) ∨ Greeted fw limit r := by
  by_cases h : ∃ c message, Objection fw limit t paint r c message
  · obtain ⟨c, message, hobjects⟩ := h
    exact .inl (exists_deciding hobjects)
  · exact .inr (posted_or_greeted_of_passed fun c message hobjects => h ⟨c, message, hobjects⟩)

end Service

end SequenceDiagram
