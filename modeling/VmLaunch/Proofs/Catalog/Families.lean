import Mathlib.Data.String.Basic
import VmLaunch.Proofs.Catalog.Failure
import VmLaunch.Proofs.Catalog.RoundTrip
import VmLaunch.Proofs.Provider.Chain
import VmLaunch.Proofs.Text.Bytes

/-!
# Families of images

A project that publishes images offers the families of those that were not withdrawn, each once and
in the order of their bytes. `OffersFamilies` says so of a listing as it comes, and a session
answers with these families wherever it has the listing from: stored, or walked page by page.
-/

namespace VmLaunch

/-- An image was not withdrawn: it has no record, or one whose state is empty or `ACTIVE`. -/
def Image.IsActive (image : Image) : Prop :=
  ∀ record, image.deprecated = some record → record.state = "" ∨ record.state = "ACTIVE"

/-- The images that are not sorted out are the active ones. -/
theorem Image.isDeprecated_eq_false_iff {image : Image} :
    image.isDeprecated = false ↔ image.IsActive := by
  unfold isDeprecated IsActive
  cases image.deprecated with
  | none => simp
  | some record => by_cases vacant : record.state = "" <;> simp [vacant]

namespace Catalog

section Sorted

variable {text other : String} {texts kept : List String}

/-- To insert a text adds it and drops none. -/
theorem mem_insertSorted_iff : other ∈ insertSorted text kept ↔ other = text ∨ other ∈ kept := by
  induction kept with
  | nil => simp [insertSorted]
  | cons first rest inductionHypothesis =>
    unfold insertSorted
    split_ifs with same before
    · subst same
      simp
    · simp
    · simp only [List.mem_cons, inductionHypothesis]
      exact or_left_comm

/-- A text is added at its place. -/
theorem pairwise_insertSorted (sorted : kept.Pairwise (· < ·)) (text : String) :
    (insertSorted text kept).Pairwise (· < ·) := by
  induction kept with
  | nil => exact List.pairwise_singleton _ _
  | cons first rest inductionHypothesis =>
    obtain ⟨least, others⟩ := List.pairwise_cons.mp sorted
    unfold insertSorted
    split_ifs with same before
    · exact sorted
    · refine List.pairwise_cons.mpr ⟨fun later member => ?_, sorted⟩
      rcases List.mem_cons.mp member with rfl | behind
      · exact before
      · exact lt_trans before (least later behind)
    · refine List.pairwise_cons.mpr ⟨fun later member => ?_, inductionHypothesis others⟩
      rcases mem_insertSorted_iff.mp member with rfl | behind
      · exact lt_of_le_of_ne (not_lt.mp before) (Ne.symm same)
      · exact least later behind

/-- Texts that are inserted one by one are added, and none is dropped. -/
theorem mem_foldl_insertSorted_iff :
    other ∈ texts.foldl (fun kept text => insertSorted text kept) kept ↔
      other ∈ kept ∨ other ∈ texts := by
  induction texts generalizing kept with
  | nil => simp
  | cons text rest inductionHypothesis =>
    rw [List.foldl_cons, inductionHypothesis, mem_insertSorted_iff, List.mem_cons, or_assoc,
      or_left_comm]

/-- Texts that are inserted one by one stay in order, each of them once. -/
theorem pairwise_foldl_insertSorted (sorted : kept.Pairwise (· < ·)) :
    (texts.foldl (fun kept text => insertSorted text kept) kept).Pairwise (· < ·) := by
  induction texts generalizing kept with
  | nil => exact sorted
  | cons text rest inductionHypothesis =>
    exact inductionHypothesis (pairwise_insertSorted sorted text)

end Sorted

/-- The families that a project offers with a listing of its images: in ascending order of their
bytes, and of each at least one image that was not withdrawn. -/
structure OffersFamilies (project : String) (images : List Image) (families : List String) :
    Prop where
  ascending : families.Pairwise fun family later => Text.bytes family < Text.bytes later
  mem_iff : ∀ family, family ∈ families ↔ isPublicImageProject project = true ∧ family ≠ "" ∧
    ∃ image ∈ images, image.family = family ∧ image.IsActive

/-- The families of active images are what a public project offers. -/
theorem offersFamilies_of_public {project : String} (published : isPublicImageProject project = true)
    (images : List Image) : OffersFamilies project images (familiesOf (Query.active images)) where
  ascending := (pairwise_foldl_insertSorted .nil).imp Text.bytes_lt_bytes
  mem_iff family := by
    unfold familiesOf Query.active
    simp only [mem_foldl_insertSorted_iff, List.not_mem_nil, false_or, List.mem_filter, bne_iff_ne,
      List.mem_map, Bool.not_eq_true', Image.isDeprecated_eq_false_iff, published, true_and]
    constructor
    · rintro ⟨⟨image, ⟨member, active⟩, same⟩, named⟩
      exact ⟨named, image, member, same, active⟩
    · rintro ⟨named, image, member, same, active⟩
      exact ⟨⟨image, ⟨member, active⟩, same⟩, named⟩

/-- A project that is not public offers no families. -/
theorem offersFamilies_of_not_public {project : String}
    (unpublished : isPublicImageProject project = false) (images : List Image) :
    OffersFamilies project images [] where
  ascending := .nil
  mem_iff family := by simp [unpublished]

/-- The listing of images that a project publishes. -/
def publicImages (project : String) : Topic :=
  .whole .publicImages project

/-- The images of a project that a session has at hand: stored and live, or those of a walk. -/
inductive Supplies (env : Environment) (project : String) (session : Session) :
    List Image → Prop where
  | stored {images} (found : (Shelf.images.get session.catalog).peek? session.world.now
      (publicImages project).key = some images) : Supplies env project session images
  | walked {images} (missing : ¬ (publicImages project).IsLive session)
      (ends : (Page.fetchAll env Image.decode (globalParent project "images") session.world).1 =
        .ok images) : Supplies env project session images

section Supplies

variable {env : Environment} {project : String} {session : Session} {images : List Image}

/-- The pages of a listing that is not stored supply its images. -/
theorem supplies_of_chain {chain : Page.Chain Image}
    (missing : ¬ (publicImages project).IsLive session)
    (answered : ∀ place < chain.pages.length,
      chain.Answered env Image.decode (globalParent project "images") session.world place)
    (patient : chain.pages.length ≤ env.patience) :
    Supplies env project session chain.items :=
  .walked missing (congrArg Prod.fst (Page.Chain.fetchAll_of_answered answered patient))

/-- The images that are supplied are read, and what is stored of them afterwards is the same. -/
theorem Supplies.read (supplies : Supplies env project session images) :
    ((publicImages project).read env session).1 = .ok images ∧
      ∀ entry, (Shelf.images.get ((publicImages project).read env session).2.catalog).stored?
        (publicImages project).key = some entry → entry.value = images := by
  cases supplies with
  | stored found =>
    have read : (publicImages project).read env session =
        (.ok images, Shelf.images.afterLookup (publicImages project).key session) :=
      Shelf.through_of_found found
    refine ⟨congrArg Prod.fst read, fun entry kept => ?_⟩
    rw [read] at kept
    obtain ⟨known, stored, -, rfl⟩ := Cache.peek?_eq_some_iff.mp found
    have before := Cache.stored?_of_evict kept
    rw [stored] at before
    exact congrArg Stored.value (Option.some.inj before.symm)
  | walked missing ends =>
    rcases run : Page.fetchAll env Image.decode (globalParent project "images") session.world with
      ⟨outcome, later⟩
    rw [run] at ends
    cases ends
    have obtained : (publicImages project).obtain env
        (Shelf.images.afterLookup (publicImages project).key session) =
          (.ok images, ⟨later, (Shelf.images.afterLookup (publicImages project).key
            session).catalog⟩) := Work.inSession_of_eq run
    have read : (publicImages project).read env session = (.ok images, Shelf.images.afterStore
        (publicImages project).key images ⟨later, _⟩) :=
      Shelf.through_of_obtained (Classical.not_not.mp missing) obtained
    refine ⟨congrArg Prod.fst read, fun entry kept => ?_⟩
    rw [read] at kept
    have stored := Cache.stored?_set_self (Shelf.images.get (Shelf.images.afterLookup
      (publicImages project).key session).catalog) later.now (publicImages project).key images
    exact congrArg Stored.value (Option.some.inj (kept.symm.trans stored))

end Supplies

/-- The families of a project that publishes images are read off their listing. -/
theorem listImageFamilies_eq_read {project : String}
    (published : isPublicImageProject project = true) (env : Environment) (session : Session) :
    listImageFamilies env project session =
      (((publicImages project).read env session).1.map fun images =>
        familiesOf (Query.active images), ((publicImages project).read env session).2) := by
  have lookedUp : (Query.imageFamilies project).IsLookedUp := published
  have performed := congrFun (Query.perform_eq_read env lookedUp) session
  rw [Work.map_apply] at performed
  exact performed

/-- A project that publishes no images is not asked for them. -/
theorem listImageFamilies_of_not_public {project : String}
    (unpublished : isPublicImageProject project = false) (env : Environment) (session : Session) :
    listImageFamilies env project session = (.ok [], session) := by
  have idle : ¬ (Query.imageFamilies project).IsLookedUp := by
    intro lookedUp
    cases unpublished.symm.trans lookedUp
  exact congrFun (Query.perform_eq_nil env idle) session

/-- A listing of images decides on the families of a project: they are what the listing offers,
wherever a session has it from. Pages that are walked supply it, and it is supplied again as long
as it is stored; then nobody is asked. A project that publishes no images has no families, and
asking for them changes nothing. -/
theorem images_decide_families (project : String) (images : List Image) :
    ∃ families, OffersFamilies project images families ∧
      (∀ env session, Supplies env project session images →
        (listImageFamilies env project session).1 = .ok families) ∧
      (∀ env session (chain : Page.Chain Image), ¬ (publicImages project).IsLive session →
        (∀ place < chain.pages.length, chain.Answered env Image.decode
          (globalParent project "images") session.world place) →
        chain.pages.length ≤ env.patience → chain.items = images →
          Supplies env project session images) ∧
      (∀ env session, isPublicImageProject project = true →
        Supplies env project session images → ∀ later now,
          (publicImages project).IsLive ((listImageFamilies env project session).2.at now) →
            Supplies later project ((listImageFamilies env project session).2.at now) images) ∧
      (∀ env session, (publicImages project).IsLive session →
        (listImageFamilies env project).made session = []) ∧
      (isPublicImageProject project = false →
        ∀ env session, listImageFamilies env project session = (.ok [], session)) := by
  have walked : ∀ env session (chain : Page.Chain Image), ¬ (publicImages project).IsLive session →
      (∀ place < chain.pages.length, chain.Answered env Image.decode
        (globalParent project "images") session.world place) →
      chain.pages.length ≤ env.patience → chain.items = images →
        Supplies env project session images := by
    rintro env session chain missing answered patient rfl
    exact supplies_of_chain missing answered patient
  cases published : isPublicImageProject project with
  | false =>
    have idle := listImageFamilies_of_not_public published
    refine ⟨[], offersFamilies_of_not_public published images, fun env session _ => ?_, walked,
      nofun, fun env session _ => ?_, fun _ => idle⟩
    · rw [idle]
    · refine Work.made_eq ?_
      rw [idle]
      exact (List.append_nil _).symm
  | true =>
    refine ⟨_, offersFamilies_of_public published images, fun env session supplies => ?_, walked,
      fun env session _ supplies later now live => ?_, fun env session live => ?_, nofun⟩
    · rw [listImageFamilies_eq_read published, supplies.read.1]
      rfl
    · obtain ⟨found, peeked⟩ := Option.ne_none_iff_exists'.mp live
      obtain ⟨entry, stored, -, same⟩ := Cache.peek?_eq_some_iff.mp peeked
      rw [listImageFamilies_eq_read published] at stored
      obtain rfl := same.symm.trans (supplies.read.2 entry stored)
      exact .stored peeked
    · have lookedUp : (Query.imageFamilies project).IsLookedUp := published
      exact Query.made_of_atHand env lookedUp (.stored live)

/-- An image of a family with a deprecation record or without one. -/
def familyImage (family : String) (deprecated : Option Deprecation) : Image :=
  ⟨"", "", family, "", "", "", 0, deprecated⟩

/-- Two pages of images. One of the images of a family was withdrawn and the other was not; the
last image is of no family. -/
def imagePages : Page.Chain Image where
  first := [familyImage "debian-12" none, familyImage "debian-11" (some ⟨"DEPRECATED", ""⟩)]
  later := [("2", [familyImage "debian-11" (some ⟨"ACTIVE", ""⟩), familyImage "" none])]
  named := by decide
  distinct := by decide

/-- The path of the second page. -/
def imagesBehind : String :=
  "projects/debian-cloud/global/images?pageToken=2"

/-- The body of the first page. -/
def firstImages : Json :=
  .obj [("items", .arr (imagePages.first.map Image.encode)), ("nextPageToken", .str "2")]

/-- The body of the second page. -/
def lastImages : Json :=
  .obj [("items", .arr ((imagePages.later.flatMap Prod.snd).map Image.encode))]

/-- A provider of these pages. -/
def imageProvider : Environment where
  project := "demo"
  requestId _ := ""
  reply _ call :=
    { answer :=
        match call with
        | .get path => .ok (if path = imagesBehind then lastImages else firstImages)
        | .getUrl _ => .ok .null
        | .post _ _ => .ok .null }
  pause := Pause.manual
  patience := 2

private theorem imagePages_answered {place : Nat} (within : place < imagePages.pages.length) :
    imagePages.Answered imageProvider Image.decode (globalParent "debian-cloud" "images") {}
      place := by
  have listed : ∀ images : List Image,
      (images.map Image.encode).map Image.decode = images.map some := by
    intro images
    rw [List.map_map]
    exact List.map_congr_left fun image _ => Image.decode_encode image
  match place, within with
  | 0, _ =>
    have apart : Page.path (globalParent "debian-cloud" "images") none ≠ imagesBehind := by decide
    exact ⟨(none, imagePages.first), firstImages, some "2", rfl, congrArg Except.ok (if_neg apart),
      .parts (.object (by decide)) (.listed (listed _)) .token, rfl⟩
  | 1, _ =>
    have behind : Page.path (globalParent "debian-cloud" "images") (some "2") = imagesBehind := by
      decide +kernel
    exact ⟨(some "2", imagePages.later.flatMap Prod.snd), lastImages, none, rfl,
      congrArg Except.ok (if_pos behind), .parts (.object (by decide)) (.listed (listed _)) .missing,
      .inl rfl⟩

/-- Two families are offered by the two pages, and by what is stored of them a moment later. -/
theorem images_decide_families_imagePages :
    let project := "debian-cloud"
    let session := Session.start defaultTtl
    let later := (listImageFamilies imageProvider project session).2.at 1
    ∃ families, OffersFamilies project imagePages.items families ∧ "debian-11" ∈ families ∧
      (listImageFamilies imageProvider project session).1 = .ok families ∧
      (listImageFamilies imageProvider project later).1 = .ok families ∧
      (listImageFamilies imageProvider project).made later = [] := by
  intro project session later
  obtain ⟨families, offers, answers, walked, again, quiet, -⟩ :=
    images_decide_families project imagePages.items
  have missing : ¬ (publicImages project).IsLive session := fun live =>
    Topic.not_atHand_start _ _ (.stored live)
  have supplies : Supplies imageProvider project session imagePages.items :=
    walked _ _ imagePages missing (fun _ => imagePages_answered) (by decide) rfl
  have live : (publicImages project).IsLive later := by
    rw [Topic.IsLive, ← Option.isSome_iff_ne_none]
    decide +kernel
  have active : (familyImage "debian-11" (some ⟨"ACTIVE", ""⟩)).IsActive := by
    rintro _ ⟨⟩
    exact .inr rfl
  have offered : "debian-11" ∈ families :=
    (offers.mem_iff _).mpr ⟨by decide, by decide, _, by decide, rfl, active⟩
  exact ⟨families, offers, offered, answers _ _ supplies,
    answers _ _ (again _ _ (by decide) supplies _ 1 live), quiet _ _ live⟩

end Catalog

end VmLaunch
