-- SUMMARY: When the message of an error reply is reported, and when the members beside it cost the message.
import PlaceSearch.Proofs.Json.Reader
import PlaceSearch.Service.Place
import PlaceSearch.Service.Query

/-!
# Messages of error replies

An error reply is read as a whole. Beside the message it may hold a code and a status,
which nothing uses, but which have to be of the expected kind all the same: if one of
them is not, the reply is not read and the fallback is reported in place of the message.
-/

namespace PlaceSearch

open Json (Reader Tree memberOf HoldsOnce)

/-- The object `error` of a reply, the members beside it, and its text `message`. -/
structure HttpReply.Explains (reply : HttpReply) (members details : List (Option String × Tree))
    (message : String) : Prop where
  body : Tree.ofString? reply.errorText = some (.object members)
  error : (some "error", .object details) ∈ members
  message : (some "message", .text (some message)) ∈ details

/-- What is read beside a message is of the expected kind: no key is repeated, a code is
    an integer of 16 bits, a status is a text, and either of them may be null. -/
structure IsOrderly (members details : List (Option String × Tree)) : Prop where
  outer : HoldsOnce ["error"] members
  inner : HoldsOnce ["code", "message", "status"] details
  code : ∀ t ∈ memberOf details "code",
    t = .null ∨ ∃ k ≤ 65535, ∃ n, t = .number n ∧ n.number? = some (.int (k : Nat))
  status : ∀ t ∈ memberOf details "status", t = .null ∨ ∃ s, t = .text (some s)

variable {members details : List (Option String × Tree)} {message : String} {room : Nat}

/-- An error reply is read if what stands beside its message is orderly. -/
theorem errorReplyReader_of_isOrderly (h : IsOrderly members details)
    (herror : (some "error", .object details) ∈ members)
    (hmessage : (some "message", .text (some message)) ∈ details) :
    errorReplyReader (room + 2) (.object members) = some (some message) := by
  have houter : Reader.fields ["error"] (room + 2) (.object members) =
      some [some (.object details)] := by
    refine Reader.fields_object_eq_some_iff.mpr ⟨h.outer, ?_⟩
    rw [List.map_singleton, h.outer.memberOf_eq_some List.mem_cons_self herror]
  have hinner : Reader.fields ["code", "message", "status"] (room + 1) (.object details) =
      some [memberOf details "code", some (.text (some message)), memberOf details "status"] := by
    refine Reader.fields_object_eq_some_iff.mpr ⟨h.inner, ?_⟩
    simp [h.inner.memberOf_eq_some (by decide) hmessage]
  obtain ⟨code, hcode⟩ : ∃ code, Reader.optional (.natUpTo 65535) room (memberOf details "code") =
      some code := by
    simpa only [Reader.exists_optional_eq_some_iff, Reader.natUpTo_eq_some_iff] using h.code
  obtain ⟨status, hstatus⟩ : ∃ status, Reader.optional .text room (memberOf details "status") =
      some status := by
    simpa only [Reader.exists_optional_eq_some_iff, Reader.text_eq_some_iff] using h.status
  have hobject (r : Reader (Option String)) :
      Reader.optional r (room + 1) (some (.object details)) =
        (r (room + 1) (.object details)).map some := rfl
  have htext : Reader.optional .text room (some (.text (some message))) = some (some message) := rfl
  simp [errorReplyReader, Reader.record, houter, hinner, hobject, hcode, htext, hstatus]

/-- Nothing else is read. -/
theorem isOrderly_of_errorReplyReader {answer : Option String}
    (herror : (some "error", .object details) ∈ members)
    (h : errorReplyReader (room + 2) (.object members) = some answer) :
    IsOrderly members details := by
  obtain ⟨parts, hparts, hanswer⟩ := Option.bind_eq_some_iff.mp h
  obtain ⟨houter, rfl⟩ := Reader.fields_object_eq_some_iff.mp hparts
  obtain ⟨message, hmessage, -⟩ := Option.bind_eq_some_iff.mp hanswer
  rw [houter.memberOf_eq_some List.mem_cons_self herror] at hmessage
  obtain ⟨_, hdetails, -⟩ := Option.map_eq_some_iff.mp hmessage
  obtain ⟨parts, hparts, hbuild⟩ := Option.bind_eq_some_iff.mp hdetails
  obtain ⟨hinner, rfl⟩ := Reader.fields_object_eq_some_iff.mp hparts
  obtain ⟨code, hcode, hbuild⟩ := Option.bind_eq_some_iff.mp hbuild
  obtain ⟨_, -, hbuild⟩ := Option.bind_eq_some_iff.mp hbuild
  obtain ⟨status, hstatus, -⟩ := Option.bind_eq_some_iff.mp hbuild
  have hcodes := Reader.exists_optional_eq_some_iff.mp ⟨code, hcode⟩
  have hstatuses := Reader.exists_optional_eq_some_iff.mp ⟨status, hstatus⟩
  simp only [Reader.natUpTo_eq_some_iff] at hcodes
  simp only [Reader.text_eq_some_iff] at hstatuses
  exact ⟨houter, hinner, hcodes, hstatuses⟩

namespace HttpReply

variable {reply : HttpReply}

theorem Explains.fault_of_isOrderly (h : reply.Explains members details message)
    (horderly : IsOrderly members details) (fallback : String) :
    reply.fault fallback = .api reply.status message := by
  have hread : errorReplyReader.run reply.errorText = some (some message) := by
    rw [Reader.run, h.body]
    exact errorReplyReader_of_isOrderly horderly h.error h.message
  rw [fault, errorReplyMessage, hread]
  rfl

theorem Explains.fault_of_not_isOrderly (h : reply.Explains members details message)
    (hdisorderly : ¬ IsOrderly members details) (fallback : String) :
    reply.fault fallback = .api reply.status fallback := by
  have hread : errorReplyReader.run reply.errorText = none := by
    rw [Reader.run, h.body, Option.eq_none_iff_forall_ne_some]
    intro answer hanswer
    exact hdisorderly (isOrderly_of_errorReplyReader h.error hanswer)
  rw [fault, errorReplyMessage, hread]
  rfl

/-- What queries, routes and places say of a reply that reports a failure. -/
structure FailsWith (reply : HttpReply) (query route place : String) : Prop where
  query : ∀ base projectId maxResults statement token,
    (queryExchange base projectId maxResults statement token).read reply =
      .error (.api reply.status query)
  route : ∀ address key origin destination,
    (routeExchange address key origin destination).read reply =
      .error (.api reply.status ("Routes API request failed: " ++ route))
  /-- An unknown place is no failure. -/
  place : reply.status ≠ 404 → ∀ base key placeId,
    (placeExchange base key placeId).read reply = .error (.api reply.status place)

theorem failsWith_of_fault (hfailed : reply.isSuccess = false) {query route place : String}
    (hquery : reply.fault "API request failed." = .api reply.status query)
    (hroute : reply.fault (toString reply.status) = .api reply.status route)
    (hplace : reply.fault "Place details request failed." = .api reply.status place) :
    reply.FailsWith query route place where
  query base projectId maxResults statement token := by
    simp [queryExchange, hfailed, hquery]
  route address key origin destination := by
    simp only [routeExchange, hfailed, Bool.false_eq_true, if_false, hroute]
    rfl
  place hknown base key placeId := by
    simp [placeExchange, hknown, hfailed, hplace]

/-- The message of a failure is reported if what stands beside it is orderly. Otherwise it
    is lost, and the fallbacks are reported. -/
theorem reportsMessage (hfailed : reply.isSuccess = false)
    (h : reply.Explains members details message) :
    (IsOrderly members details → reply.FailsWith message message message) ∧
    (¬ IsOrderly members details → reply.FailsWith "API request failed." (toString reply.status)
      "Place details request failed.") := by
  constructor
  · intro horderly
    have hfault := h.fault_of_isOrderly horderly
    exact failsWith_of_fault hfailed (hfault _) (hfault _) (hfault _)
  · intro hdisorderly
    have hfault := h.fault_of_not_isOrderly hdisorderly
    exact failsWith_of_fault hfailed (hfault _) (hfault _) (hfault _)

/-- A refusal with a message and a status, whatever the status is. -/
def refusal (status : String) : HttpReply :=
  ⟨403, "\x7b\"error\":\x7b\"message\":\"Access Denied\",\"status\":" ++ status ++ "\x7d\x7d"⟩

/-- The members of the error of a refusal. -/
def refusalDetails (status : Tree) : List (Option String × Tree) :=
  [(some "message", .text (some "Access Denied")), (some "status", status)]

theorem explains_refusal {status : String} {tree : Tree}
    (hbody : Tree.ofString? (refusal status).errorText =
      some (.object [(some "error", .object (refusalDetails tree))])) :
    (refusal status).Explains [(some "error", .object (refusalDetails tree))]
      (refusalDetails tree) "Access Denied" :=
  ⟨hbody, List.mem_cons_self, List.mem_cons_self⟩

/-- The number of the refusal in the place of its status. -/
theorem explains_refusal_number :
    (refusal "403").Explains
      [(some "error", .object (refusalDetails (.number ⟨false, ['4', '0', '3'], none, none⟩)))]
      (refusalDetails (.number ⟨false, ['4', '0', '3'], none, none⟩)) "Access Denied" :=
  explains_refusal rfl

theorem not_isOrderly_refusal_number (members : List (Option String × Tree)) (n : Json.Numeral) :
    ¬ IsOrderly members (refusalDetails (.number n)) := by
  intro horderly
  obtain hnull | ⟨s, htext⟩ := horderly.status (.number n) rfl
  · cases hnull
  · cases htext

theorem reportsMessage_refusal :
    (refusal "\"PERMISSION_DENIED\"").FailsWith "Access Denied" "Access Denied" "Access Denied" ∧
      (refusal "403").FailsWith "API request failed." "403" "Place details request failed." := by
  have hnamed : (refusal "\"PERMISSION_DENIED\"").Explains
      [(some "error", .object (refusalDetails (.text (some "PERMISSION_DENIED"))))]
      (refusalDetails (.text (some "PERMISSION_DENIED"))) "Access Denied" := explains_refusal rfl
  have horderly : IsOrderly
      [(some "error", .object (refusalDetails (.text (some "PERMISSION_DENIED"))))]
      (refusalDetails (.text (some "PERMISSION_DENIED"))) := {
    outer := by
      unfold HoldsOnce
      decide
    inner := by
      unfold HoldsOnce
      decide
    code := fun t ht => by cases ht
    status := fun t ht => by
      cases ht
      exact .inr ⟨_, rfl⟩ }
  exact ⟨(reportsMessage rfl hnamed).1 horderly,
    (reportsMessage rfl explains_refusal_number).2 (not_isOrderly_refusal_number _ _)⟩

/-- A message can be lost: it is if the number of the failure stands in the place of its status. -/
theorem not_forall_reportsMessage :
    ¬ ∀ (reply : HttpReply) members details message, reply.isSuccess = false →
      reply.Explains members details message → reply.FailsWith message message message := by
  intro hall
  have hfault := explains_refusal_number.fault_of_not_isOrderly (not_isOrderly_refusal_number _ _)
  have hkept := (hall _ _ _ _ rfl explains_refusal_number).query "" "" 1 "" ""
  rw [(failsWith_of_fault rfl (hfault _) (hfault _) (hfault _)).query] at hkept
  exact absurd (Except.error.inj hkept) (by decide)

end HttpReply

end PlaceSearch
