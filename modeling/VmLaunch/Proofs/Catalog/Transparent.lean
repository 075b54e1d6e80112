import VmLaunch.Proofs.Catalog.Query

/-!
# Transparency of the catalog

A catalog is `Transparent` to queries when it answers each as a fresh one does,
whatever was asked before. It is to queries that are separate, for these keep it
faithful.
-/

namespace VmLaunch.Catalog

/-- Sessions after queries and the passing of time, from a fresh catalog in any world. -/
inductive Reached (env : Environment) (ttl : Duration) (asked : Query → Prop) : Session → Prop where
  | fresh (world : World) : Reached env ttl asked ⟨world, Catalog.fresh ttl⟩
  | performed {session} (before : Reached env ttl asked session) (query : Query)
      (member : asked query) : Reached env ttl asked (query.perform env session).2
  | advanced {session} (before : Reached env ttl asked session) (d : Duration) :
      Reached env ttl asked { session with world := session.world.advance d }

/-- Whatever was asked before, every query is answered as from a fresh catalog. -/
def Transparent (asked : Query → Prop) : Prop :=
  ∀ (env : Environment) (answers : String → Answer), env.Fixed answers →
    ∀ ttl session, Reached env ttl asked session → ∀ query, asked query →
      ∀ world age, (query.perform env session).1 = (query.perform env ⟨world, .fresh age⟩).1

section Sessions

variable {env : Environment} {answers : String → Answer} {asked : Query → Prop} {ttl : Duration}
  {session : Session}

/-- Queries that are separate keep the catalog faithful. -/
theorem Reached.faithful (fixed : env.Fixed answers) (separate : Query.Separate asked)
    (reached : Reached env ttl asked session) :
    Faithful env (Query.Topics asked) ttl session.catalog := by
  induction reached with
  | fresh world => exact faithful_fresh ttl
  | performed before query member inductionHypothesis =>
    obtain ⟨outcome, keeps⟩ := Query.keeps_perform fixed separate member
    exact (keeps ttl _ inductionHypothesis).2
  | advanced before d inductionHypothesis => exact inductionHypothesis

/-- A catalog is transparent to queries that are separate. -/
theorem Query.Separate.transparent (separate : Separate asked) : Transparent asked := by
  intro env answers fixed ttl session reached query member world age
  obtain ⟨outcome, keeps⟩ := keeps_perform fixed separate member
  rw [(keeps ttl session (reached.faithful fixed separate)).1, (keeps age _ (faithful_fresh age)).1]

/-- The zones of one region are those of all regions that lie in it. -/
theorem zonesOf_some (region : String) (regions : List Region) :
    zonesOf (some region) regions =
      (zonesOf none regions).filter fun zone => zone.region == region := by
  induction regions with
  | nil => rfl
  | cons head rest inductionHypothesis =>
    have alike : ∀ zone ∈ head.toZones, zone.region = head.name := by
      intro zone member
      obtain ⟨name, -, rfl⟩ := List.mem_map.mp member
      rfl
    have whole : zonesOf none (head :: rest) = head.toZones ++ zonesOf none rest := by
      simp [zonesOf]
    rw [whole, List.filter_append, ← inductionHypothesis]
    by_cases chosen : head.name = region
    · have kept : head.toZones.filter (fun zone => zone.region == region) = head.toZones :=
        List.filter_eq_self.mpr fun zone member => by simp [alike zone member, chosen]
      simp [zonesOf, kept, chosen]
    · have dropped : head.toZones.filter (fun zone => zone.region == region) = [] :=
        List.filter_eq_nil_iff.mpr fun zone member => by simp [alike zone member, chosen]
      simp [zonesOf, dropped, Ne.symm chosen]

/-- After any queries that are separate, the zones of one region are those of all
regions that lie in it. -/
theorem Reached.zones_restrict (fixed : env.Fixed answers) (separate : Query.Separate asked)
    {other : Session} {otherTtl : Duration} (reached : Reached env ttl asked session)
    (otherReached : Reached env otherTtl asked other) {project region : String}
    (one : asked (.zones project (some region))) (all : asked (.zones project none)) :
    (listZones env project (some region) session).1 =
      (listZones env project none other).1.map (List.filter fun zone => zone.region == region) := by
  have restricted : (listZones env project (some region) session).1 =
      (Whole.regions.fetch env project {}).1.map (zonesOf region) :=
    (Query.keeps_read fixed separate one ttl session (reached.faithful fixed separate)).1
  have unrestricted : (listZones env project none other).1 =
      (Whole.regions.fetch env project {}).1.map (zonesOf none) :=
    (Query.keeps_read fixed separate all otherTtl other (otherReached.faithful fixed separate)).1
  rw [restricted, unrestricted]
  cases (Whole.regions.fetch env project {}).1 with
  | ok regions => exact congrArg Outcome.ok (zonesOf_some region regions)
  | error cause => rfl
  | unfinished => rfl

end Sessions

end VmLaunch.Catalog
