/-
# Passing entities on from hub to hub

A push consists of what the operations of the run brought, written by the profile of its kind. It is
posted as text, and by a lawful codec the text is read as the same items, in whatever order their
members stand and with the doubles that the reader made of those that were written. Another hub
takes each item in as if it had been given the entity with these doubles. Both hubs see the same in
it: they find the same key and the same fingerprint, and the same times and values.

Doubles apart, this is the entity that was pushed; and it is that entity itself if the reader gives
back each of its doubles, as the shortest text of a double allows.
-/

import TransitHub.Proofs.Decode.Model
import TransitHub.Proofs.Entity.Reread
import TransitHub.Proofs.Hub.Brought
import TransitHub.Proofs.Json.Reading

namespace TransitHub

/-! ## Payloads as text -/

namespace Json

theorem items_withDoubles (f : Binary64 → Binary64) (j : Json) :
    (j.withDoubles f).items = j.items.map (withDoubles f) := by
  rw [items, items, member?_withDoubles]
  cases j.member? "serviceDelivery" with
  | none => rfl
  | some delivery =>
    rw [Option.map_some, Option.bind_some, Option.bind_some, member?_withDoubles]
    cases delivery.member? "items" with
    | none => rfl
    | some xs => exact elements_withDoubles xs

/-- The items of a document stay in their order, whatever the order of its members. -/
theorem Rearranged.items {j j' : Json} {d : Nat} (h : j.Rearranged j') (hfits : j.Fits d) :
    List.Forall₂ Rearranged j.items j'.items := by
  have hdelivery := h.member? hfits.names "serviceDelivery"
  unfold Json.items
  generalize hfound : j.member? "serviceDelivery" = delivery at hdelivery ⊢
  generalize j'.member? "serviceDelivery" = delivery' at hdelivery ⊢
  cases hdelivery with
  | none => exact .nil
  | some hsame =>
    have hitems := hsame.member? (hfits.member hfound).names "items"
    rw [Option.bind_some, Option.bind_some]
    generalize Json.member? _ "items" = xs at hitems ⊢
    generalize Json.member? _ "items" = xs' at hitems ⊢
    cases hitems with
    | none => exact .nil
    | some hxs => exact hxs.elements

end Json

namespace Payload

variable {known : Known} {producer : String} {p : Payload}

/-- What is posted is a document that readers of JSON take. -/
theorem Conveys.fits (h : p.Conveys known producer) : p.body.Fits 6 := by
  obtain ⟨wall, s, content, hcontent, rfl⟩ := h
  cases content with
  | entities k items more =>
    have hitems : ∀ item ∈ items, item.Fits 3 := by
      intro item hitem
      obtain ⟨e, rfl, -⟩ := hcontent item hitem
      exact k.fits_toJson e
    simpa [ofContent, document, DataKind.toJson] using hitems
  | heartbeat => simp [ofContent, document]
  | termination => simp [ofContent, document]

/-- The text of a payload is read as its items, each with the doubles that were read. -/
theorem Conveys.read {codec : Json.Codec} {reread : Binary64 → Binary64}
    (h : p.Conveys known producer) (hcodec : codec.Lawful reread) :
    ∃ document, codec.read (p.text codec) = some document ∧
      List.Forall₂ (fun item j => (item.withDoubles reread).Rearranged j) p.items
        document.items := by
  obtain ⟨document, hread, hsame⟩ := hcodec p.body (h.fits.mono (by decide))
  have hitems := hsame.items h.fits.withDoubles
  rw [Json.items_withDoubles, List.forall₂_map_left_iff] at hitems
  exact ⟨document, hread, hitems⟩

end Payload

/-! ## Taking over what was pushed -/

/-- Documents that are read back are the decodable ones. -/
theorem Feed.decodable_eq {α : Type} {p : Profile α} {items : List Json} {es : List α}
    (h : List.Forall₂ (fun j e => p.decoder j = .ok e) items es) : decodable p items = es := by
  induction h with
  | nil => rfl
  | cons hread _ ih =>
    rw [decodable, List.filterMap_cons, hread]
    exact congrArg _ ih

namespace Hub

/-- Documents that are all read are ingested as the entities that were written. -/
theorem ingestJson_eq_ingest (h : Hub) {k : DataKind} (dataset : String) {items : List Json}
    {es : List k.Entity}
    (hread : List.Forall₂ (fun j e => (h.feeds.get k).store.profile.decoder j = .ok e) items es) :
    h.ingestJson k dataset items = h.ingest k dataset es := by
  have hfeed : (h.feeds.get k).ingestJson h.clock dataset items =
      (h.feeds.get k).ingest h.clock dataset es 0 := by
    rw [Feed.ingestJson, Feed.decodable_eq hread, hread.length_eq, Nat.sub_self]
  unfold ingestJson ingest
  rw [hfeed]
  rfl

/-- Whether a hub sees in a document what another one sees in an entity. -/
structure Recognizes (h other : Hub) (k : DataKind) (j : Json) (e : k.Entity) : Prop where
  entity : (h.feeds.get k).store.profile.decoder j = .ok e
  key : ∀ dataset, (h.feeds.get k).store.profile.key? dataset e =
    (other.feeds.get k).store.profile.key? dataset e
  fingerprint : (h.feeds.get k).store.profile.fingerprint e =
    (other.feeds.get k).store.profile.fingerprint e
  recordedAt : (h.feeds.get k).store.profile.recordedAt e =
    (other.feeds.get k).store.profile.recordedAt e
  validityEnd : (h.feeds.get k).store.profile.validityEnd e =
    (other.feeds.get k).store.profile.validityEnd e
  carried : (h.feeds.get k).store.profile.carried e =
    (other.feeds.get k).store.profile.carried e

theorem recognizes_of_rearranged {h other : Hub} {hash : String → Fingerprint} {k : DataKind}
    (hexact : h.Exact hash k) (hother : other.Exact hash k) {e : k.Entity} {j : Json}
    (hj : (k.profile.toJson e).Rearranged j) : h.Recognizes other k j e := by
  have hsame : (h.feeds.get k).store.profile = (other.feeds.get k).store.profile :=
    hexact.profile.trans hother.profile.symm
  have hread : k.profile.decoder j = .ok e := Decoder.Inverts.read hj
  constructor <;> rw [hsame]
  · rw [hother.profile]
    exact hread
  · exact fun _ => rfl

end Hub

end TransitHub
