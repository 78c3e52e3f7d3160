import TokenAuthority.Proofs.Http.Privilege
import TokenAuthority.Proofs.Json.Documents
import TokenAuthority.Proofs.Keys.History

/-!
# What a request to reload the keys comes to

A request to reload whose body can be read does what it asks or is refused. One whose body cannot be read is never
refused for it: it reloads the keys as a request without a body does. Main statement: `reload_honours_or_ignores`.
-/

namespace TokenAuthority

namespace Json

theorem Value.read_nil : Value.read [] = (.broken, []) := by
  rw [Value.read, Reader.run.eq_def]
  rfl

end Json

namespace Http

open Endpoint (Reload requestedKid)

/-! ## Bodies -/

section

variable {α : Type} {decoder : Json.Decoder α} {request : Request}

/-- A body that is written as JSON, and sent as that, reads back. -/
theorem Request.decodeBody_of_written {document : Json.Document} {a : α} (hjson : request.saysJson = true)
    (hbody : request.body = Text.Utf8.encode document.chars) (hlength : request.body.length ≤ longestBody)
    (hdecode : decoder document.toValue = .ok a) : request.decodeBody decoder = .ok a := by
  have hread : Json.decodeLeading decoder (Text.Utf8.decode request.body) = .ok a := by
    rw [hbody, Text.Utf8.decode_encode, Json.decodeLeading]
    exact (congrArg (fun read => decoder read.1) (Json.Value.read_chars document)).trans hdecode
  rw [decodeBody, hjson, if_neg (by simp), if_neg (Nat.not_lt.2 hlength), hread]

/-- Without a body nothing is read by a decoder that refuses what is no value. -/
theorem Request.decodeBody_of_empty (hbody : request.body = []) (hdecode : decoder .broken = .error .malformed) :
    ∃ fault, request.decodeBody decoder = .error fault := by
  have hread : Json.decodeLeading decoder (Text.Utf8.decode []) = .error .malformed := by
    rw [Text.Utf8.decode, Text.Utf8.decodeOnto, List.reverse_nil, Json.decodeLeading, Json.Value.read_nil]
    exact hdecode
  rw [decodeBody, hbody, hread]
  split
  · exact ⟨_, rfl⟩
  · exact ⟨_, rfl⟩

end

/-! ## Requests to reload -/

/-- A request to reload the keys with a token of an administrator. -/
structure AsksReload (service : Service) (now : Instant) (request : Request) : Prop where
  method : request.method = .post
  path : request.path = "/v1/admin/keys/reload".toList
  called : ∃ claims, CalledWith service now request claims ∧ claims.roles.admin = true

/-- The body of a request is read, and afterwards the keys of the source are live, under the key id that the body
names, or the one of before if it names none. -/
def Honours (service : Service) (moment : Moment) (request : Request) (outcome : Outcome) : Prop :=
  ∃ reload, request.decodeBody Reload.decoder = .ok reload ∧ outcome.response.status = 200 ∧
    KeySet.load moment.keySource = .ok outcome.service.registry.keys ∧
    outcome.service.registry.activeKid = reload.activeKid.getD service.registry.activeKid

/-- A request fails and changes nothing. -/
def Refuses (service : Service) (outcome : Outcome) : Prop :=
  ¬ (200 ≤ outcome.response.status ∧ outcome.response.status < 300) ∧ outcome.service = service

/-- A request with nothing in its body. -/
def Request.withoutBody (request : Request) : Request := { request with body := [] }

variable {service : Service} {moment : Moment} {request : Request}

theorem AsksReload.withoutBody (h : AsksReload service moment.now request) :
    AsksReload service moment.now request.withoutBody :=
  ⟨h.method, h.path, h.called⟩

theorem requestedKid_of_decodes {reload : Reload} (h : request.decodeBody Reload.decoder = .ok reload) :
    requestedKid request = reload.activeKid := by
  rw [requestedKid, h]

theorem requestedKid_of_fault {fault : BodyFault} (h : request.decodeBody Reload.decoder = .error fault) :
    requestedKid request = none := by
  rw [requestedKid, h]

theorem requestedKid_withoutBody (request : Request) : requestedKid request.withoutBody = none := by
  have hempty : request.withoutBody.body = [] := rfl
  have hbroken : Reload.decoder .broken = .error .malformed := rfl
  obtain ⟨fault, hfault⟩ := Request.decodeBody_of_empty hempty hbroken
  exact requestedKid_of_fault hfault

theorem status_ofKeyError (error : KeyError) :
    (Answer.ofKeyError error).reply.toResponse.status = 400 ∨
      (Answer.ofKeyError error).reply.toResponse.status = 422 := by
  cases error with
  | notRegistered kid => exact .inl rfl
  | _ => exact .inr rfl

/-! ## Their outcome -/

namespace AsksReload

variable (h : AsksReload service moment.now request)
include h

/-- A request to reload gets to the endpoint, which has some verified claims. -/
theorem exists_handle_eq : ∃ identity,
    (api.handle service moment request).service = (Endpoint.reload service moment request identity).1 ∧
    (api.handle service moment request).response =
      (Endpoint.reload service moment request identity).2.reply.toResponse := by
  obtain ⟨claims, ⟨token, hbears, hverify⟩, hadmin⟩ := h.called
  have hmatches : GuardedRoute.reloadKeys.Matches request [] := ⟨h.method, h.path, nofun⟩
  exact ⟨_, GuardedRoute.handle_of_granted hmatches rfl hbears hverify hadmin⟩

theorem handle_of_ok {after : Registry}
    (hreload : service.registry.reload moment.keySource (requestedKid request) = .ok after) :
    (api.handle service moment request).service = { service with registry := after } ∧
    (api.handle service moment request).response = (Endpoint.keysReply after after).toResponse := by
  obtain ⟨identity, hservice, hresponse⟩ := h.exists_handle_eq
  rw [hservice, hresponse, Endpoint.reload, hreload]
  exact ⟨rfl, rfl⟩

theorem handle_of_error {error : KeyError}
    (hreload : service.registry.reload moment.keySource (requestedKid request) = .error error) :
    (api.handle service moment request).service = service ∧
    (api.handle service moment request).response = (Answer.ofKeyError error).reply.toResponse := by
  obtain ⟨identity, hservice, hresponse⟩ := h.exists_handle_eq
  rw [hservice, hresponse, Endpoint.reload, hreload]
  exact ⟨rfl, rfl⟩

theorem refuses_of_error {error : KeyError}
    (hreload : service.registry.reload moment.keySource (requestedKid request) = .error error) :
    Refuses service (api.handle service moment request) := by
  obtain ⟨hservice, hresponse⟩ := h.handle_of_error hreload
  refine ⟨?_, hservice⟩
  rw [hresponse]
  rcases status_ofKeyError error with hstatus | hstatus
  · omega
  · omega

/-- What is asked for depends on the key id that is found in the body alone. -/
theorem handle_congr {other : Request} (hother : AsksReload service moment.now other)
    (hsame : requestedKid other = requestedKid request) :
    (api.handle service moment request).service = (api.handle service moment other).service ∧
    (api.handle service moment request).response = (api.handle service moment other).response := by
  cases hreload : service.registry.reload moment.keySource (requestedKid request) with
  | ok after =>
      obtain ⟨hservice, hresponse⟩ := h.handle_of_ok hreload
      obtain ⟨hservice', hresponse'⟩ := hother.handle_of_ok (hsame ▸ hreload)
      exact ⟨hservice.trans hservice'.symm, hresponse.trans hresponse'.symm⟩
  | error error =>
      obtain ⟨hservice, hresponse⟩ := h.handle_of_error hreload
      obtain ⟨hservice', hresponse'⟩ := hother.handle_of_error (hsame ▸ hreload)
      exact ⟨hservice.trans hservice'.symm, hresponse.trans hresponse'.symm⟩

section

variable {reload : Reload} (hdecode : request.decodeBody Reload.decoder = .ok reload)
include hdecode

theorem honours_of_possible
    (hpossible : (KeyOperation.reload moment.keySource reload.activeKid).Possible service.registry) :
    Honours service moment request (api.handle service moment request) := by
  obtain ⟨after, hrun⟩ := KeyOperation.run_eq_ok_iff.2 hpossible
  have hreload : service.registry.reload moment.keySource reload.activeKid = .ok after := hrun
  obtain ⟨hservice, hresponse⟩ := h.handle_of_ok (requestedKid_of_decodes hdecode ▸ hreload)
  obtain ⟨keys, hload, hpublish⟩ := Registry.load_of_reload hreload
  refine ⟨reload, hdecode, by rw [hresponse]; rfl, ?_, ?_⟩
  · rw [hservice, Registry.keys_of_publish hpublish]
    exact hload
  · rw [hservice]
    exact KeyOperation.activeKid_of_run hrun

theorem refuses_of_not_possible
    (himpossible : ¬ (KeyOperation.reload moment.keySource reload.activeKid).Possible service.registry) :
    Refuses service (api.handle service moment request) := by
  cases hreload : service.registry.reload moment.keySource reload.activeKid with
  | ok after =>
      have hrun : (KeyOperation.reload moment.keySource reload.activeKid).run service.registry = .ok after := hreload
      exact absurd (KeyOperation.run_eq_ok_iff.1 ⟨after, hrun⟩) himpossible
  | error error => exact h.refuses_of_error (requestedKid_of_decodes hdecode ▸ hreload)

theorem honours_or_refuses :
    Honours service moment request (api.handle service moment request) ∨
      Refuses service (api.handle service moment request) := by
  by_cases hpossible : (KeyOperation.reload moment.keySource reload.activeKid).Possible service.registry
  · exact .inl (h.honours_of_possible hdecode hpossible)
  · exact .inr (h.refuses_of_not_possible hdecode hpossible)

end

/-- A body that cannot be read counts as none. -/
theorem handle_of_fault {fault : BodyFault} (hfault : request.decodeBody Reload.decoder = .error fault) :
    (api.handle service moment request).service = (api.handle service moment request.withoutBody).service ∧
    (api.handle service moment request).response = (api.handle service moment request.withoutBody).response := by
  apply h.handle_congr h.withoutBody
  rw [requestedKid_of_fault hfault, requestedKid_withoutBody]

theorem handle_of_fault_of_load {fault : BodyFault} {keys : KeySet}
    (hfault : request.decodeBody Reload.decoder = .error fault) (hload : KeySet.load moment.keySource = .ok keys) :
    (api.handle service moment request).response.status = 200 ∧
    (api.handle service moment request).service.registry = ⟨keys, service.registry.activeKid⟩ := by
  have hreload : service.registry.reload moment.keySource (requestedKid request) =
      .ok ⟨keys, service.registry.activeKid⟩ := by
    rw [requestedKid_of_fault hfault, Registry.reload_of_load hload, Registry.publish_none]
  obtain ⟨hservice, hresponse⟩ := h.handle_of_ok hreload
  exact ⟨by rw [hresponse]; rfl, by rw [hservice]⟩

theorem refuses_of_load_error {error : KeyError} (hload : KeySet.load moment.keySource = .error error) :
    Refuses service (api.handle service moment request) :=
  h.refuses_of_error (Registry.reload_of_load_error hload)

end AsksReload

/-- A request to reload whose body is read is honoured if the reload is possible, and refused otherwise. A body that
cannot be read counts as none, so such a request is refused only if the source cannot be loaded; otherwise its keys go
live under the key id that was active before. -/
theorem reload_honours_or_ignores (h : AsksReload service moment.now request) :
    (∀ reload, request.decodeBody Reload.decoder = .ok reload →
      ((KeyOperation.reload moment.keySource reload.activeKid).Possible service.registry →
        Honours service moment request (api.handle service moment request)) ∧
      (¬ (KeyOperation.reload moment.keySource reload.activeKid).Possible service.registry →
        Refuses service (api.handle service moment request))) ∧
    (∀ fault, request.decodeBody Reload.decoder = .error fault →
      (api.handle service moment request).service = (api.handle service moment request.withoutBody).service ∧
      (api.handle service moment request).response = (api.handle service moment request.withoutBody).response ∧
      ∀ keys, KeySet.load moment.keySource = .ok keys → (api.handle service moment request).response.status = 200 ∧
        (api.handle service moment request).service.registry = ⟨keys, service.registry.activeKid⟩) ∧
    (Honours service moment request (api.handle service moment request) ∨
        Refuses service (api.handle service moment request) ↔
      (∃ reload, request.decodeBody Reload.decoder = .ok reload) ∨
        ∀ keys, KeySet.load moment.keySource ≠ .ok keys) := by
  refine ⟨fun reload hdecode => ?_, fun fault hfault => ?_, ?_⟩
  · exact ⟨h.honours_of_possible hdecode, h.refuses_of_not_possible hdecode⟩
  · obtain ⟨hservice, hresponse⟩ := h.handle_of_fault hfault
    exact ⟨hservice, hresponse, fun keys hload => h.handle_of_fault_of_load hfault hload⟩
  · cases hdecode : request.decodeBody Reload.decoder with
    | ok reload => exact ⟨fun _ => .inl ⟨reload, rfl⟩, fun _ => h.honours_or_refuses hdecode⟩
    | error fault =>
        cases hload : KeySet.load moment.keySource with
        | ok keys =>
            obtain ⟨hstatus, _⟩ := h.handle_of_fault_of_load hdecode hload
            simp [Honours, Refuses, hdecode, hstatus]
        | error error => simp [h.refuses_of_load_error hload]

/-! ## A sample -/

/-- The body that asks for a key id to be made active. -/
def reloadDocument (kid : String) : Json.Document := .object [("active_kid", .text kid)]

/-- The sample reload with a body. -/
def namingReload (text kid : String) (headers : List (String × List UInt8)) : Request :=
  { (sampleReload text).request with
    headers := (sampleReload text).request.headers ++ headers
    body := Text.Utf8.encode (reloadDocument kid).chars }

/-- The header that announces a body in JSON. -/
def jsonHeader : String × List UInt8 := ("Content-Type", Text.Utf8.bytes "application/json")

theorem namingReload_asks {text kid : String}
    (hissue : Authority.issue (Authority.sampleRegistry "k") Startup.sampleClaims = .ok text)
    (headers : List (String × List UInt8)) :
    AsksReload (sampleReload text).before (sampleReload text).moment.now (namingReload text kid headers) := by
  obtain ⟨hne, hvisible⟩ := Authority.visible_of_issue hissue
  have hbears : (namingReload text kid headers).Bears text := Request.bears_of_header hvisible hne rfl
  refine ⟨rfl, ?_, Startup.sampleClaims, ⟨text, hbears, verify_sampleReload hissue⟩, rfl⟩
  simp only [Request.path, namingReload, sampleReload]
  decide

theorem namingReload_saysJson (text kid : String) : (namingReload text kid [jsonHeader]).saysJson = true := by
  have hheader : (namingReload text kid [jsonHeader]).header? "content-type" = some jsonHeader.2 := rfl
  rw [Request.saysJson, hheader]
  decide +kernel

/-- The sample reload that names the key id of the source is honoured. -/
theorem reload_honours_or_ignores_sample : ∃ text : String,
    AsksReload (sampleReload text).before (sampleReload text).moment.now (namingReload text "k2" [jsonHeader]) ∧
    Honours (sampleReload text).before (sampleReload text).moment (namingReload text "k2" [jsonHeader])
      (api.handle (sampleReload text).before (sampleReload text).moment (namingReload text "k2" [jsonHeader])) := by
  obtain ⟨text, hissue, _⟩ := Startup.start_sample
  have hasks : AsksReload (sampleReload text).before (sampleReload text).moment.now
      (namingReload text "k2" [jsonHeader]) := namingReload_asks hissue _
  have hlength : (Text.Utf8.encode (reloadDocument "k2").chars).length ≤ longestBody := by decide +kernel
  have hdecode : (namingReload text "k2" [jsonHeader]).decodeBody Reload.decoder = .ok ⟨some "k2"⟩ :=
    Request.decodeBody_of_written (namingReload_saysJson text "k2") rfl hlength rfl
  refine ⟨text, hasks, ((reload_honours_or_ignores hasks).1 _ hdecode).1 ?_⟩
  exact ⟨_, load_sampleReload text, Authority.samplePair "k2", List.mem_singleton.2 rfl, rfl⟩

/-- A request to make a key id active that the source lacks, sent without saying that it is JSON, is answered like a
success, and the key set is replaced. -/
theorem unread_reload_replaces_keys : ∃ service moment request,
    AsksReload service moment.now request ∧ request.body = Text.Utf8.encode (reloadDocument "ghost").chars ∧
    (api.handle service moment request).response.status = 200 ∧
    (api.handle service moment request).service.registry.activeKid = service.registry.activeKid ∧
    (api.handle service moment request).service.registry.kids ≠ service.registry.kids ∧
    ¬ Honours service moment request (api.handle service moment request) ∧
    ¬ Refuses service (api.handle service moment request) := by
  obtain ⟨text, hissue, _⟩ := Startup.start_sample
  have hasks : AsksReload (sampleReload text).before (sampleReload text).moment.now (namingReload text "ghost" []) :=
    namingReload_asks hissue _
  have hfault : (namingReload text "ghost" []).decodeBody Reload.decoder = .error .contentType := rfl
  obtain ⟨hstatus, hregistry⟩ := hasks.handle_of_fault_of_load hfault (load_sampleReload text)
  refine ⟨_, _, _, hasks, rfl, hstatus, by rw [hregistry], ?_, ?_, ?_⟩
  · rw [hregistry]
    show (Authority.sampleRegistry "k2").keys.kids ≠ (Authority.sampleRegistry "k").keys.kids
    decide +kernel
  · rintro ⟨reload, hdecode, _⟩
    rw [hfault] at hdecode
    cases hdecode
  · rintro ⟨hrefused, _⟩
    rw [hstatus] at hrefused
    exact hrefused (by decide)

end Http

end TokenAuthority
