import Vigil.Proofs.Url.Authority
import Vigil.Proofs.Url.Punycode

/-!
# Canonical URLs

What the reader makes of a text, whatever the text, is a URL in canonical form: every part of it is
encoded as it has to be there, its host is in the form in which a host is written, its path is free
of dot segments, and what a URL implies is left out. Such a URL is read from its text as it is. So
to read a URL, to write it and to read it again is to read it once.

## Main definitions

* `Url.IsSegment`: what stands between the slashes of a path that was read.
* `Url.Canonical`: what is known of every URL that was read.

## Main results

* `asciiDomain?_asciiDomain?`: a domain in ASCII form is left as it is.
* `ofText_canonical`: every URL that is read is in canonical form.
* `Canonical.ofText_text`: the text of a URL in canonical form.
-/

namespace Vigil.Url

open Vigil.Text Vigil.Unicode

/-! ### Domains -/

/-- A label is read only if it keeps to the rules. -/
theorem labelValid_of_readLabel? {label out : List Char} (h : readLabel? label = some out) :
    labelValid out = true := by
  rw [readLabel?] at h
  split at h
  · obtain ⟨u, -, h⟩ := Option.bind_eq_some_iff.mp h
    split at h
    next hvalid =>
      obtain rfl := Option.some.inj h
      exact (Bool.and_eq_true_iff.mp hvalid).2
    · cases h
  · split at h
    next hvalid => exact Option.some.inj h ▸ hvalid
    · cases h

/-- What the rules say of every label: its characters are mapped, and it does not begin with the
mark. -/
theorem isMapped_of_labelValid {label : List Char} (h : labelValid label = true) :
    (∀ c ∈ label, isMapped c = true) ∧ marker.isPrefixOf label = false := by
  rw [labelValid, Bool.and_eq_true, Bool.and_eq_true, Bool.not_eq_true'] at h
  exact ⟨List.all_eq_true.mp h.1.1, h.1.2⟩

/-- **The ASCII form of a label reads back as the label.** -/
theorem readLabel?_asciiLabel {label : List Char} (h : labelValid label = true) :
    readLabel? (asciiLabel label) = some label := by
  rw [asciiLabel]
  split
  · rw [readLabel?, (isMapped_of_labelValid h).2, if_neg Bool.false_ne_true, if_pos h]
  next hascii =>
    have hforeign : label.any (!isAscii ·) = true := by
      simpa [List.any_eq_true, List.all_eq_true] using hascii
    have hmark : marker.isPrefixOf (marker ++ Punycode.encode label) = true :=
      List.isPrefixOf_iff_prefix.mpr (List.prefix_append _ _)
    rw [readLabel?, hmark, if_pos rfl, List.drop_left, Punycode.decode?_encode, Option.bind_eq_bind,
      Option.bind_some, hforeign, h]
    rfl

/-- The characters of the ASCII form of a label are mapped. -/
theorem isMapped_of_mem_asciiLabel {label : List Char} (h : labelValid label = true) {c : Char}
    (hc : c ∈ asciiLabel label) : isMapped c = true := by
  rcases mem_asciiLabel hc with ⟨hmem, -⟩ | hmark | hdigit
  · exact (isMapped_of_labelValid h).1 c hmem
  · exact forall_mem_of_all (P := fun c => isMapped c = true) (by decide +kernel) c hmark
  · exact Punycode.forall_isDigit (P := fun c => isMapped c = true) (by decide +kernel) hdigit

/-- The ASCII form of a label holds no dot. -/
theorem dot_notMem_asciiLabel {label : List Char} (h : '.' ∉ label) : '.' ∉ asciiLabel label := by
  intro hc
  rcases mem_asciiLabel hc with ⟨hmem, -⟩ | hmark | hdigit
  · exact h hmem
  · exact absurd hmark (by decide)
  · exact Punycode.forall_isDigit (P := (· ≠ '.')) (by decide) hdigit rfl

/-- A text in ASCII whose characters are mapped and may stand in a domain is only cut into labels. -/
theorem asciiDomain?_of_mapped {name : List Char} {labels : List (List Char)}
    (hallowed : ∀ c ∈ name, IsAllowed c) (hmapped : ∀ c ∈ name, isMapped c = true)
    (hread : (fields '.' name).mapM readLabel? = some labels)
    (hdirections : (runsRightToLeft labels && !labels.all directionValid) = false) :
    asciiDomain? name = some (joinWith ['.'] (labels.map asciiLabel)) := by
  have hmap : name.mapM mapHostChar? = some (name.map fun c => [c]) :=
    mapM_eq_some_map fun c hc => eq_of_beq (hmapped c hc)
  have hflatten : (name.map fun c => [c]).flatten = name := by
    rw [← List.flatMap_def, List.flatMap_singleton']
  have hcomposed : composed name = name :=
    composed_of_lt fun c hc => of_decide_eq_true (hallowed c hc).1
  have hforbidden : (name.any fun c => isAscii c && isForbidden c) = false :=
    List.any_eq_false.mpr fun c hc => by simp [(hallowed c hc).2]
  rw [asciiDomain?, hmap]
  simp only [Option.bind_eq_bind, Option.bind_some, hflatten, hcomposed, hforbidden, hread,
    hdirections, Bool.false_eq_true, if_false]

/-- **A domain in ASCII form is left as it is.** -/
theorem asciiDomain?_asciiDomain? {cs name : List Char} (h : asciiDomain? cs = some name) :
    asciiDomain? name = some name := by
  have hallowed := asciiDomain?_allowed h
  obtain ⟨mapped, -, h⟩ := Option.bind_eq_some_iff.mp h
  dsimp only at h
  split at h
  · cases h
  obtain ⟨labels, hlabels, h⟩ := Option.bind_eq_some_iff.mp h
  split at h
  · cases h
  next hdirections =>
    -- the labels are the same the second time, so their directions need not be looked at
    obtain rfl := Option.some.inj h
    have hvalid : ∀ label ∈ labels, labelValid label = true ∧ '.' ∉ label := by
      intro label hlabel
      obtain ⟨source, hsource, hread⟩ := (correspond_of_mapM hlabels).2 label hlabel
      exact ⟨labelValid_of_readLabel? hread,
        fun hdot => notMem_of_mem_fields hsource (mem_of_readLabel? hread hdot (by decide))⟩
    have hne : labels.map asciiLabel ≠ [] := by
      obtain ⟨source, hsource⟩ :=
        List.exists_mem_of_ne_nil _ (fields_ne_nil '.' (composed mapped.flatten))
      obtain ⟨label, hlabel, -⟩ := (correspond_of_mapM hlabels).1 source hsource
      exact List.ne_nil_of_mem (List.mem_map_of_mem hlabel)
    have hfields : fields '.' (joinWith ['.'] (labels.map asciiLabel)) = labels.map asciiLabel :=
      fields_joinWith hne (List.forall_mem_map.mpr fun label hlabel =>
        dot_notMem_asciiLabel (hvalid label hlabel).2)
    refine asciiDomain?_of_mapped hallowed (fun c hc => ?_) ?_ (Bool.eq_false_iff.mpr hdirections)
    · rcases mem_joinWith hc with hdot | ⟨f, hf, hc⟩
      · obtain rfl := List.mem_singleton.mp hdot
        decide +kernel
      · obtain ⟨label, hlabel, rfl⟩ := List.mem_map.mp hf
        exact isMapped_of_mem_asciiLabel (hvalid label hlabel).1 hc
    · rw [hfields]
      exact mapM_map fun label hlabel => readLabel?_asciiLabel (hvalid label hlabel).1

/-! ### Hosts -/

/-- The name of a host that is read is a domain in ASCII form. -/
theorem asciiDomain?_of_hostOfDomain {cs : List Char} {name : String}
    (h : hostOfDomain cs = .ok (.domain name)) : asciiDomain? name.toList = some name.toList := by
  rw [hostOfDomain] at h
  split at h
  · cases h
  · cases h
  next read _ hread =>
    split at h
    · split at h <;> cases h
    · cases h
      rw [String.toList_ofList]
      exact asciiDomain?_asciiDomain? hread

/-- A domain in ASCII form that is well formed is read as a host of that name. -/
theorem Host.WellFormed.hostOfDomain {name : String} (h : (Host.domain name).WellFormed)
    (hascii : asciiDomain? name.toList = some name.toList) :
    hostOfDomain name.toList = .ok (.domain name) := by
  rw [Url.hostOfDomain, hascii]
  split
  next hnone => cases hnone
  next hnil => exact absurd (Option.some.inj hnil) h.1
  next read _ hread =>
    obtain rfl := Option.some.inj hread
    rw [h.2.2, if_neg Bool.false_ne_true, String.ofList_toList]

/-- **The text of a host that is read reads as the host**, wherever it stands. -/
theorem Host.readsAs_of_ofChars {cs : List Char} {h : Host} (hread : Host.ofChars cs = .ok h) :
    h.ReadsAs h := by
  have hwf := Host.ofChars_wellFormed hread
  cases h with
  | v4 a => exact Host.readsAs_v4 a
  | v6 a => exact Host.readsAs_v6 a
  | domain name =>
      refine Host.readsAs_domain hwf (hwf.hostOfDomain ?_)
      rw [Host.ofChars.eq_def] at hread
      split at hread
      · cases hread
      · split at hread
        · split at hread <;> cases hread
        · cases hread
      · split at hread
        · cases hread
        · exact asciiDomain?_of_hostOfDomain hread

/-! ### Encoded parts -/

/-- A text that may stand in a part is left as it is. -/
theorem percentEncode_eq_self {set : Char → Bool} {cs : List Char} (h : ∀ c ∈ cs, set c = false) :
    percentEncode set cs = cs := by
  induction cs with
  | nil => rfl
  | cons c cs ih =>
      rw [List.forall_mem_cons] at h
      rw [percentEncode, List.flatMap_cons, encodeChar, h.1, if_neg Bool.false_ne_true,
        List.singleton_append]
      exact congrArg (c :: ·) (ih h.2)

/-- The encoding of a text is empty only if the text is. -/
theorem percentEncode_ne_nil (set : Char → Bool) {cs : List Char} (h : cs ≠ []) :
    percentEncode set cs ≠ [] := by
  obtain ⟨c, cs, rfl⟩ := List.exists_cons_of_ne_nil h
  have hbytes : String.utf8EncodeChar c ≠ [] := by
    rw [← List.length_pos_iff, String.length_utf8EncodeChar]
    exact Char.utf8Size_pos c
  have hchar : encodeChar set c ≠ [] := by
    rw [encodeChar]
    split
    · obtain ⟨b, bs, hcons⟩ := List.exists_cons_of_ne_nil hbytes
      rw [hcons, List.flatMap_cons, percentByte]
      exact List.cons_ne_nil _ _
    · exact List.cons_ne_nil _ _
  rw [percentEncode, List.flatMap_cons]
  exact List.append_ne_nil_of_left_ne_nil hchar _

/-- A character that is neither a control nor a space is visible. -/
theorem isVisible_of_not_isControl {c : Char} (hcontrol : isControl c = false) (hspace : c ≠ ' ') :
    IsVisible c := by
  have hcode : c.toNat ≠ 0x20 := fun heq => hspace (Char.toNat_inj.mp heq)
  simp only [isControl, Bool.or_eq_false_iff, decide_eq_false_iff_not] at hcontrol
  exact ⟨by omega, by omega⟩

/-- What may stand in a fragment is visible. -/
theorem isVisible_of_fragmentSet {c : Char} (h : fragmentSet c = false) : IsVisible c := by
  rw [fragmentSet, Bool.or_eq_false_iff] at h
  refine isVisible_of_not_isControl h.1 ?_
  rintro rfl
  exact absurd h.2 (by decide)

/-- So is what may stand in a path. -/
theorem isVisible_of_pathSet {c : Char} (h : pathSet c = false) : IsVisible c :=
  isVisible_of_fragmentSet (Bool.or_eq_false_iff.mp h).1

/-- So is what may stand in a query. -/
theorem isVisible_of_querySet {c : Char} (h : querySet c = false) : IsVisible c := by
  rw [querySet, Bool.or_eq_false_iff] at h
  refine isVisible_of_not_isControl h.1 ?_
  rintro rfl
  exact absurd h.2 (by decide)

/-- A visible text is clean. -/
theorem clean_eq_self {cs : List Char} (h : ∀ c ∈ cs, IsVisible c) : clean cs = cs := by
  by_cases hne : cs = []
  · rw [hne]
    rfl
  · obtain ⟨rest, hrest, hprefix⟩ :=
      dropEnds_append hne (fun c hc => decide_eq_false (Nat.not_le.mpr (h c hc).1)) []
    rw [List.prefix_nil.mp hprefix, List.append_nil] at hrest
    rw [clean, hrest, filter_of_isVisible h]

/-! ### Paths -/

/-- A text that may stand between the slashes of a path. -/
def IsEncoded (segment : List Char) : Prop := ∀ c ∈ segment, pathSet c = false ∧ isSlash c = false

/-- What stands between the slashes of a path that was read: such a text, and no dot segment. -/
structure IsSegment (segment : List Char) : Prop where
  encoded : IsEncoded segment
  doubleDot : isDoubleDot segment = false
  singleDot : isSingleDot segment = false

/-- Nothing is a segment as well. -/
theorem isSegment_nil : IsSegment [] := ⟨nofun, by decide, by decide⟩

/-- Segments are encoded when they are read. -/
theorem isEncoded_of_mem_readSegments {cs segment : List Char} (h : segment ∈ readSegments cs) :
    IsEncoded segment := by
  have hescape : ∀ c ∈ escapeChars, pathSet c = false ∧ isSlash c = false :=
    forall_mem_of_all (by decide)
  obtain ⟨source, hsource, rfl⟩ := List.mem_map.mp h
  intro c hc
  rcases mem_percentEncode hc with hc | ⟨hmem, hset⟩
  · exact hescape c hc
  · refine ⟨hset, ?_⟩
    -- slashes are cut at, and backslashes are slashes by then
    have hslash : c ≠ '/' := fun heq => notMem_of_mem_fields hsource (heq ▸ hmem)
    obtain ⟨d, -, hd⟩ := List.mem_map.mp (mem_of_mem_fields hsource hmem)
    have hbackslash : c ≠ '\\' := by
      rintro rfl
      split at hd
      · cases hd
      next hne => exact hne hd
    rw [isSlash, beq_eq_false_iff_ne.mpr hslash, beq_eq_false_iff_ne.mpr hbackslash, Bool.or_false]

/-- One level up there are no other segments. -/
theorem mem_of_mem_leaveSegment {done : List (List Char)} {segment : List Char}
    (h : segment ∈ leaveSegment done) : segment ∈ done := by
  cases done with
  | nil => exact h
  | cons s rest =>
      rw [leaveSegment] at h
      split at h
      · exact h
      · exact List.mem_cons_of_mem _ h

/-- **Dot segments are resolved**, and no other text comes into a path. -/
theorem isSegment_of_mem_appendSegments {done segments : List (List Char)}
    (hdone : ∀ s ∈ done, IsSegment s) (hsegments : ∀ s ∈ segments, IsEncoded s) :
    ∀ s ∈ appendSegments done segments, IsSegment s := by
  have hleave {done : List (List Char)} (hdone : ∀ s ∈ done, IsSegment s) :
      ∀ s ∈ leaveSegment done, IsSegment s := fun s hs => hdone s (mem_of_mem_leaveSegment hs)
  have hempty {done : List (List Char)} (hdone : ∀ s ∈ done, IsSegment s) :
      ∀ s ∈ [] :: done, IsSegment s := List.forall_mem_cons.mpr ⟨isSegment_nil, hdone⟩
  have hkeep {done : List (List Char)} {s : List Char} (hs : IsEncoded s)
      (hdouble : ¬isDoubleDot s = true) (hsingle : ¬isSingleDot s = true)
      (hdone : ∀ s ∈ done, IsSegment s) : ∀ t ∈ s :: done, IsSegment t :=
    List.forall_mem_cons.mpr
      ⟨⟨hs, Bool.eq_false_iff.mpr hdouble, Bool.eq_false_iff.mpr hsingle⟩, hdone⟩
  fun_induction appendSegments done segments with
  | case1 done => exact hdone
  | case2 done s hdouble => exact hempty (hleave hdone)
  | case3 done s hdouble hsingle => exact hempty hdone
  | case4 done s hdouble hsingle =>
      exact hkeep (hsegments s List.mem_cons_self) hdouble hsingle hdone
  | case5 done s rest hne hdouble ih =>
      exact ih (hleave hdone) (List.forall_mem_cons.mp hsegments).2
  | case6 done s rest hne hdouble hsingle ih => exact ih hdone (List.forall_mem_cons.mp hsegments).2
  | case7 done s rest hne hdouble hsingle ih =>
      have hsegments := List.forall_mem_cons.mp hsegments
      exact ih (hkeep hsegments.1 hdouble hsingle hdone) hsegments.2

/-- A path has at least one segment. -/
theorem appendSegments_ne_nil (done : List (List Char)) {segments : List (List Char)}
    (h : segments ≠ []) : appendSegments done segments ≠ [] := by
  fun_induction appendSegments done segments with
  | case1 => exact absurd rfl h
  | case2 => exact List.cons_ne_nil _ _
  | case3 => exact List.cons_ne_nil _ _
  | case4 => exact List.cons_ne_nil _ _
  | case5 done s rest hne hdouble ih => exact ih hne
  | case6 done s rest hne hdouble hsingle ih => exact ih hne
  | case7 done s rest hne hdouble hsingle ih => exact ih hne

/-- Where there are no dot segments, all segments are kept. -/
theorem appendSegments_eq {done segments : List (List Char)} (h : ∀ s ∈ segments, IsSegment s) :
    appendSegments done segments = segments.reverse ++ done := by
  fun_induction appendSegments done segments with
  | case1 => rfl
  | case2 done s hdouble => simp [(h s List.mem_cons_self).doubleDot] at hdouble
  | case3 done s hdouble hsingle => simp [(h s List.mem_cons_self).singleDot] at hsingle
  | case4 => rfl
  | case5 done s rest hne hdouble => simp [(h s List.mem_cons_self).doubleDot] at hdouble
  | case6 done s rest hne hdouble hsingle => simp [(h s List.mem_cons_self).singleDot] at hsingle
  | case7 done s rest hne hdouble hsingle ih =>
      rw [ih (List.forall_mem_cons.mp h).2, List.reverse_cons, List.append_assoc,
        List.singleton_append]

/-- Encoded segments are read from a path as they are. -/
theorem readSegments_joinWith {segments : List (List Char)} (hne : segments ≠ [])
    (h : ∀ s ∈ segments, IsEncoded s) : readSegments (joinWith ['/'] segments) = segments := by
  have hslash {s : List Char} (hs : IsEncoded s) : '/' ∉ s := fun hmem =>
    absurd (hs _ hmem).2 (by decide)
  have hkeep : (joinWith ['/'] segments).map (fun c => if c = '\\' then '/' else c) =
      joinWith ['/'] segments := by
    refine (List.map_congr_left fun c hc => if_neg ?_).trans (List.map_id _)
    rintro rfl
    rcases mem_joinWith hc with hc | ⟨s, hs, hc⟩
    · exact absurd hc (by decide)
    · exact absurd (h s hs _ hc).2 (by decide)
  rw [readSegments, hkeep, fields_joinWith hne fun s hs => hslash (h s hs)]
  exact (List.map_congr_left fun s hs => percentEncode_eq_self fun c hc => (h s hs c hc).1).trans
    (List.map_id _)

/-- The path of a text consists of segments, of at least one. -/
theorem readPath_isSegment (cs : List Char) :
    readPath [] cs ≠ [] ∧ ∀ s ∈ readPath [] cs, IsSegment s.toList := by
  have hne : readSegments cs ≠ [] := fun h => fields_ne_nil _ _ (List.map_eq_nil_iff.mp h)
  constructor
  · intro hnil
    rw [readPath, List.map_eq_nil_iff, List.reverse_eq_nil_iff] at hnil
    exact appendSegments_ne_nil _ hne hnil
  · intro s hs
    obtain ⟨segment, hsegment, rfl⟩ := List.mem_map.mp hs
    rw [String.toList_ofList]
    exact isSegment_of_mem_appendSegments (List.forall_mem_nil _)
      (fun _ => isEncoded_of_mem_readSegments) segment (List.mem_reverse.mp hsegment)

/-- Segments are read from the text of a path as they are. -/
theorem readPath_joinWith {path : List String} (hne : path ≠ [])
    (h : ∀ s ∈ path, IsSegment s.toList) :
    readPath [] (joinWith ['/'] (path.map String.toList)) = path := by
  have hsegments : ∀ s ∈ path.map String.toList, IsSegment s := List.forall_mem_map.mpr h
  rw [readPath, readSegments_joinWith (mt List.map_eq_nil_iff.mp hne) fun s hs =>
    (hsegments s hs).encoded, appendSegments_eq hsegments]
  simp [Function.comp_def]

/-- Segments, each after a slash, are a slash and the segments with slashes between them. -/
theorem flatMap_slash {path : List String} (h : path ≠ []) :
    (path.flatMap fun segment => '/' :: segment.toList) =
      '/' :: joinWith ['/'] (path.map String.toList) := by
  induction path with
  | nil => exact absurd rfl h
  | cons s path ih =>
      cases path with
      | nil => exact List.append_nil _
      | cons t path =>
          rw [List.flatMap_cons, ih (List.cons_ne_nil _ _)]
          simp only [List.map_cons, joinWith, List.append_assoc, List.cons_append,
            List.nil_append]

/-! ### URLs -/

/-- What is known of every URL that was read: all of its parts are encoded, its host reads as it is,
an empty password and the port that the scheme implies are left out, and its path consists of
segments. -/
structure Canonical (u : Url) : Prop extends u.WellFormed where
  reads : u.host.ReadsAs u.host
  password_ne : u.password ≠ some ""
  port_ne : u.port ≠ some u.scheme.defaultPort
  path_ne : u.path ≠ []
  path : ∀ s ∈ u.path, IsSegment s.toList
  query : ∀ q, u.query = some q → ∀ c ∈ q.toList, querySet c = false
  fragment : ∀ f, u.fragment = some f → ∀ c ∈ f.toList, fragmentSet c = false

/-- A password that is read is not empty. -/
theorem readUserinfo_ne (cs : List Char) : (readUserinfo cs).2 ≠ some "" := by
  intro h
  rw [readUserinfo] at h
  split at h
  · cases h
  next name secret _ =>
    dsimp only at h
    split at h
    · cases h
    next hsecret =>
      have hnil := congrArg String.toList (Option.some.inj h)
      rw [String.toList_ofList] at hnil
      exact percentEncode_ne_nil userinfoSet (mt List.isEmpty_iff.mpr hsecret) hnil

/-- A query that is read is encoded. -/
theorem readTail_fst (cs : List Char) :
    ∀ q, (readTail cs).1 = some q → ∀ c ∈ q.toList, querySet c = false := by
  intro q hq c hc
  rw [readTail.eq_def] at hq
  split at hq
  · cases hq
    exact eq_false_of_mem_percentEncode (forall_mem_of_all (by decide)) (String.toList_ofList ▸ hc)
  · cases hq

/-- So is a fragment. -/
theorem readTail_snd (cs : List Char) :
    ∀ f, (readTail cs).2 = some f → ∀ c ∈ f.toList, fragmentSet c = false := by
  have hread (cs : List Char) :
      ∀ f, readFragment cs = some f → ∀ c ∈ f.toList, fragmentSet c = false := by
    intro f hf c hc
    rw [readFragment.eq_def] at hf
    split at hf
    · cases hf
    · cases hf
      exact eq_false_of_mem_percentEncode (forall_mem_of_all (by decide))
        (String.toList_ofList ▸ hc)
  rw [readTail.eq_def]
  split <;> exact hread _

/-- The URL of a text after the slashes is in canonical form. -/
theorem readAfterSlashes_canonical {scheme : Scheme} {cs : List Char} {u : Url}
    (h : readAfterSlashes scheme cs = .ok u) : u.Canonical := by
  have hwf := readAfterSlashes_wellFormed h
  obtain ⟨authority, hauthority, h⟩ := exists_of_bind_eq_ok h
  cases h
  obtain ⟨host, hhost, h⟩ := exists_of_bind_eq_ok hauthority
  obtain ⟨port, hport, h⟩ := exists_of_bind_eq_ok h
  cases h
  exact ⟨hwf, Host.readsAs_of_ofChars hhost, readUserinfo_ne _,
    fun hp => (readPort_spec hport _ hp).2 rfl, (readPath_isSegment _).1, (readPath_isSegment _).2,
    readTail_fst _, readTail_snd _⟩

/-- **A URL that is read is in canonical form.** -/
theorem ofText_canonical {s : String} {u : Url} (h : ofText s = .ok u) : u.Canonical := by
  rw [ofText, ofChars] at h
  split at h
  · cases h
  · split at h
    · cases h
    · exact readAfterSlashes_canonical h

/-! ### The text of a URL -/

namespace Canonical

variable {u : Url}

/-- The user name and the password are read back. -/
theorem readUserinfo (h : u.Canonical) :
    readUserinfo u.userinfoChars.dropLast = (u.username, u.password) := by
  have hcolon : ':' ∉ u.username.toList := fun hmem => absurd (h.username _ hmem) (by decide)
  rw [userinfoChars]
  cases hpassword : u.password with
  | none =>
      have hname : (if u.username.isEmpty then [] else u.username.toList ++ ['@']).dropLast =
          u.username.toList := by
        split
        next hempty => rw [String.isEmpty_iff.mp hempty]; rfl
        next => rw [List.dropLast_concat]
      dsimp only
      rw [hname, Url.readUserinfo, splitOnce_of_notMem hcolon]
      dsimp only
      rw [percentEncode_eq_self h.username, String.ofList_toList]
  | some p =>
      have hne : p.toList.isEmpty = false := by
        rw [Bool.eq_false_iff, ne_eq, List.isEmpty_iff, String.toList_eq_nil_iff]
        rintro rfl
        exact h.password_ne hpassword
      dsimp only
      rw [List.dropLast_concat, List.append_assoc, List.singleton_append, Url.readUserinfo,
        splitOnce_append hcolon]
      dsimp only
      rw [hne, if_neg Bool.false_ne_true, percentEncode_eq_self h.username,
        percentEncode_eq_self (h.password p hpassword), String.ofList_toList, String.ofList_toList]

/-- The port is read back. -/
theorem readPort (h : u.Canonical) : readPort u.scheme u.portChars = .ok u.port := by
  rw [portChars]
  cases hport : u.port with
  | none => rfl
  | some p =>
      have hle : ¬65535 < p := Nat.not_lt.mpr (h.port p hport)
      have hne : p ≠ u.scheme.defaultPort := fun heq => h.port_ne (hport.trans (congrArg some heq))
      dsimp only
      rw [Url.readPort, if_neg (by simpa using numeral_ne_nil 10 p),
        numeral?_numeral (by decide) (by decide)]
      dsimp only
      rw [if_neg hle, if_neg hne]

/-- What stands in a path: slashes, and what may stand between them. -/
theorem mem_pathChars (h : u.Canonical) {c : Char} (hc : c ∈ u.pathChars) :
    c = '/' ∨ pathSet c = false := by
  obtain ⟨s, hs, hc⟩ := List.mem_flatMap.mp hc
  exact (List.mem_cons.mp hc).imp_right fun hc => ((h.path s hs).encoded c hc).1

/-- The path ends where the query or the fragment begins. -/
theorem endsPath_of_mem_pathChars (h : u.Canonical) {c : Char} (hc : c ∈ u.pathChars) :
    endsPath c = false := by
  rcases h.mem_pathChars hc with rfl | hset
  · rfl
  · rw [endsPath, Bool.or_eq_false_iff, beq_eq_false_iff_ne, beq_eq_false_iff_ne]
    constructor <;> rintro rfl <;> exact absurd hset (by decide)

/-- The path is read back. -/
theorem readPath (h : u.Canonical) : readPath [] (dropSlash u.pathChars) = u.path := by
  rw [pathChars, flatMap_slash h.path_ne]
  exact readPath_joinWith h.path_ne h.path

/-- The fragment is read back. -/
theorem readFragment (h : u.Canonical) : readFragment (tailChars '#' u.fragment) = u.fragment := by
  cases hfragment : u.fragment with
  | none => rfl
  | some f =>
      rw [tailChars, Url.readFragment, percentEncode_eq_self (h.fragment f hfragment),
        String.ofList_toList]

/-- The query and the fragment are read back. -/
theorem readTail (h : u.Canonical) :
    readTail (tailChars '?' u.query ++ tailChars '#' u.fragment) = (u.query, u.fragment) := by
  have hfragment := h.readFragment
  have hstop : (tailChars '#' u.fragment).takeWhile (· ≠ '#') = [] ∧
      (tailChars '#' u.fragment).dropWhile (· ≠ '#') = tailChars '#' u.fragment := by
    cases u.fragment <;> exact ⟨rfl, rfl⟩
  cases hquery : u.query with
  | none =>
      have hnone : Url.readTail (tailChars '#' u.fragment) =
          (none, Url.readFragment (tailChars '#' u.fragment)) := by
        cases u.fragment <;> rfl
      rw [tailChars, List.nil_append, hnone, hfragment]
  | some q =>
      have hkeep : ∀ c ∈ q.toList, decide (c ≠ '#') = true := fun c hc => by
        rw [decide_eq_true_iff]
        rintro rfl
        exact absurd (h.query q hquery _ hc) (by decide)
      rw [tailChars, List.cons_append, Url.readTail, List.takeWhile_append_of_pos hkeep, hstop.1,
        List.append_nil, List.dropWhile_append_of_pos hkeep, hstop.2, hfragment,
        percentEncode_eq_self (h.query q hquery), String.ofList_toList]

/-- All that follows the authority is read back. -/
theorem readRest (h : u.Canonical) :
    Url.readPath [] (dropSlash ((u.pathChars ++ tailChars '?' u.query ++
        tailChars '#' u.fragment).takeWhile (!endsPath ·))) = u.path ∧
      Url.readTail ((u.pathChars ++ tailChars '?' u.query ++
        tailChars '#' u.fragment).dropWhile (!endsPath ·)) = (u.query, u.fragment) := by
  have hkeep : ∀ c ∈ u.pathChars, (!endsPath c) = true := fun c hc => by
    rw [h.endsPath_of_mem_pathChars hc, Bool.not_false]
  have hstop : (tailChars '?' u.query ++ tailChars '#' u.fragment).takeWhile (!endsPath ·) = [] ∧
      (tailChars '?' u.query ++ tailChars '#' u.fragment).dropWhile (!endsPath ·) =
        tailChars '?' u.query ++ tailChars '#' u.fragment := by
    cases u.query <;> cases u.fragment <;> exact ⟨rfl, rfl⟩
  rw [List.append_assoc, List.takeWhile_append_of_pos hkeep, hstop.1, List.append_nil,
    List.dropWhile_append_of_pos hkeep, hstop.2]
  exact ⟨h.readPath, h.readTail⟩

/-- All characters of a URL are visible. -/
theorem isVisible (h : u.Canonical) : ∀ c ∈ u.chars, IsVisible c := by
  have hscheme : ∀ c ∈ u.scheme.text.toList ++ "://".toList, IsVisible c := by
    cases u.scheme <;> exact forall_mem_of_all (by decide)
  have htail {sign : Char} (hsign : IsVisible sign) {part : Option String}
      (hpart : ∀ s, part = some s → ∀ c ∈ s.toList, IsVisible c) :
      ∀ c ∈ tailChars sign part, IsVisible c := by
    cases part with
    | none => exact nofun
    | some s => exact List.forall_mem_cons.mpr ⟨hsign, hpart s rfl⟩
  intro c hc
  rw [chars_eq] at hc
  simp only [List.mem_append] at hc
  rcases hc with (hc | hc) | (hc | hc) | hc
  · exact hscheme c (List.mem_append.mpr hc)
  · exact (h.authorityChars h.reads c hc).1
  · rcases h.mem_pathChars hc with rfl | hset
    · decide
    · exact isVisible_of_pathSet hset
  · exact htail (by decide) (fun q hq c hc => isVisible_of_querySet (h.query q hq c hc)) c hc
  · exact htail (by decide) (fun f hf c hc => isVisible_of_fragmentSet (h.fragment f hf c hc)) c hc

end Canonical

/-- **A URL in canonical form is read from its text as it is.** -/
theorem Canonical.ofText_text {u : Url} (h : u.Canonical) : ofText u.text = .ok u := by
  have hfront := h.authorityChars h.reads
  have hclean := clean_eq_self h.isVisible
  rw [chars_eq] at hclean
  rw [ofText, text, String.toList_ofList, chars_eq, ofChars_of_clean (authorityChars_ne_nil h.reads)
      (fun c hc => (hfront c hc).2) hclean, readAfterSlashes_append (fun c hc => (hfront c hc).2)
      (isRest_chars u) (readAuthority_authorityChars h.reads h.readPort), h.readUserinfo,
    h.readRest.1, h.readRest.2]

end Vigil.Url
