import Rollout.Engine.Client
import Rollout.Proofs.Url.Layout

/-!
Where the requests of a client lead. A request is written behind the base as it is, and only then
is the whole read as a URL. It leads to what it names below the path of the base exactly if the
base ends as a path does and the name of the service is plain (`Client.url_leadsTo`): all other
names are taken for several segments, for dots, for a query or for a fragment, or are decoded to
another name.
-/

namespace Rollout

/-! ## What a request names -/

/-- A segment that stands for a text: it is decoded to the bytes of the text, and nothing in it ends
a segment. -/
def Url.Spells (segment : List Char) (text : String) : Prop :=
  Url.decode segment = bytes text ∧ ∀ c ∈ segment, c ≠ '/' ∧ Url.endsPath c = false

/-- The segments of what a request asks for. -/
inductive Request.Names : Request → List (List Char) → Prop
  | service {id : String} {segment : List Char} (h : Url.Spells segment id) :
    Names (.service id) ["services".toList, segment]
  | tasks (filter : TaskFilter) : Names (.tasks filter) ["tasks".toList]
  | nodes : Names .nodes ["nodes".toList]

/-- A URL that leads from the path of a base to what a request names: on the same host, with the
parameters of the request for its query and without a fragment. -/
def Url.LeadsTo (base : Url) (r : Request) (u : Url) : Prop :=
  ∃ names, r.Names names ∧ u = Url.withPairs
    { base with path := Url.folderOf base.path ++ names, query := none, fragment := none } r.pairs

/-! ## What a request writes -/

/-- What is written behind the slash that follows the base. -/
def Request.behind : Request → List Char
  | .service id => "services".toList ++ '/' :: id.toList
  | .tasks _ => "tasks".toList
  | .nodes => "nodes".toList

/-! ## What can be written as it is -/

/-- A text that is read as the one segment that stands for it. -/
def Url.isPlainSegment (cs : List Char) : Bool :=
  cs.all (fun c => !(Url.endsPort c || Url.isBreak c)) && cs.getLast?.all (!Url.isControl ·)
    && !Url.isDots cs && !Url.hasEscape cs

def Request.isPlain : Request → Bool
  | .service id => Url.isPlainSegment id.toList
  | _ => true

/-- A base that ends as a path does: there is no query or fragment in it, and no slash or control at
its end. -/
def Client.isPathLike (c : Client) : Bool :=
  let cs := Url.flat c.base.toList
  !cs.any Url.endsPath && cs.getLast?.all fun c => !(Url.isControl c || Url.Scheme.http.isSlash c)

namespace Url

open Unicode (trimEnd)

/-- What is read of a text that is written at the end of a path. -/
def readSegments (s : Scheme) (cs : List Char) : List (List Char) :=
  segments s.isSlash ((flat (trimEnd isControl cs)).takeWhile fun c => !endsPath c)

section

variable {s : Scheme} {cs : List Char}

theorem isPlainSegment_iff (hs : s.isSpecial = true) : isPlainSegment cs = true ↔
    (∀ c ∈ cs, endsAuthority s c = false ∧ isBreak c = false) ∧
      (∀ c ∈ cs.getLast?, isControl c = false) ∧ isDots cs = false ∧ hasEscape cs = false := by
  simp only [isPlainSegment, Bool.and_eq_true, List.all_eq_true, Bool.not_eq_true',
    Bool.or_eq_false_iff, endsPort_eq hs, Option.all_eq_true, and_assoc]
  rfl

/-- A plain text is read as it is. -/
theorem flat_trimEnd_plain (h : isPlainSegment cs = true) : flat (trimEnd isControl cs) = cs := by
  obtain ⟨hall, hlast, -⟩ := (isPlainSegment_iff (s := .http) rfl).1 h
  have htrim : trimEnd isControl cs = cs := by
    cases hl : cs.getLast? with
    | none => rw [List.getLast?_eq_none_iff.1 hl]; rfl
    | some c =>
      obtain ⟨front, rfl⟩ := List.getLast?_eq_some_iff.1 hl
      exact trimEnd_append_cons (hlast c hl) front []
  rw [htrim]
  exact List.filter_eq_self.2 fun c hc => by simp [(hall c hc).2]

theorem endsPath_of_plain (h : isPlainSegment cs = true) {c : Char} (hc : c ∈ cs) :
    endsPath c = false := by
  obtain ⟨hall, -⟩ := (isPlainSegment_iff (s := .http) rfl).1 h
  exact (Bool.or_eq_false_iff.1 (hall c hc).1).2

theorem takeWhile_plain (h : isPlainSegment cs = true) :
    cs.takeWhile (fun c => !endsPath c) = cs := by
  refine List.takeWhile_eq_self_iff.2 fun c hc => ?_
  simp [endsPath_of_plain h hc]

theorem readSegments_plain (hs : s.isSpecial = true) (h : isPlainSegment cs = true) :
    readSegments s cs = [cs] := by
  obtain ⟨hall, -⟩ := (isPlainSegment_iff hs).1 h
  rw [readSegments, flat_trimEnd_plain h, takeWhile_plain h]
  exact segments_of_no_slash fun c hc => (Bool.or_eq_false_iff.1 (hall c hc).1).1

/-- The last segment that is read of a text has the bytes of all of it only if the text is plain. -/
theorem isPlainSegment_of_decode (hs : s.isSpecial = true) {front : List (List Char)}
    {last : List Char} (hread : readSegments s cs = front ++ [last]) (hdots : isDots last = false)
    (hdecode : decode last = cs.flatMap bytesOf) : isPlainSegment cs = true := by
  obtain ⟨front', last', hsuffix, hslash, -, hsegments⟩ := exists_segments_append s.isSlash
    ((flat (trimEnd isControl cs)).takeWhile fun c => !endsPath c)
  have hown := hsegments [] (by simp)
  rw [List.append_nil, List.append_nil, ← readSegments, hread] at hown
  obtain rfl : last = last' := List.singleton_inj.1 (List.append_inj' hown rfl).2
  have hpath : last.Sublist (flat (trimEnd isControl cs)) :=
    hsuffix.sublist.trans (List.takeWhile_sublist _)
  have htrim : last.Sublist (trimEnd isControl cs) := hpath.trans List.filter_sublist
  -- All that is not in the last segment, and all escapes in it, would be missing.
  have hlength := length_decode last
  rw [hdecode] at hlength
  have heq : last = cs :=
    eq_of_sublist_of_length (htrim.trans (trimEnd_sublist _ _)) (by omega)
  subst heq
  have hescape : hasEscape last = false := by
    cases he : hasEscape last with
    | false => rfl
    | true =>
      rw [he, Bool.toNat_true] at hlength
      omega
  refine (isPlainSegment_iff hs).2 ⟨fun c hc => ⟨?_, ?_⟩, fun c hc => ?_, hdots, hescape⟩
  · have hend := List.mem_takeWhile_imp (hsuffix.subset hc)
    rw [endsAuthority, hslash c hc, Bool.false_or]
    simpa using hend
  · simpa using (List.mem_filter.1 (hpath.subset hc)).2
  · have hsame : trimEnd isControl last = last :=
      (trimEnd_sublist _ _).eq_of_length_le htrim.length_le
    rw [← hsame] at hc
    exact getLast?_trimEnd hc

/-- The encoded form of a plain text stands for it. -/
theorem spells_encode {text : String} (h : isPlainSegment text.toList = true) :
    Spells (encode inPathSet text.toList) text := by
  obtain ⟨hall, -, -, hescape⟩ := (isPlainSegment_iff (s := .http) rfl).1 h
  refine ⟨?_, fun c hc => ?_⟩
  · rw [decode_encode, decode_plain hescape, ← bytes_ofList, String.ofList_toList]
  · have hdigits : ∀ n, n < 16 → upperHex n ≠ '/' ∧ endsPath (upperHex n) = false := by decide
    obtain ⟨hmem, -⟩ | rfl | ⟨n, hn, rfl⟩ := mem_encode hc
    · have hends := (hall c hmem).1
      refine ⟨?_, (Bool.or_eq_false_iff.1 hends).2⟩
      rintro rfl
      revert hends
      decide
    · decide
    · exact hdigits n hn

end

end Url

namespace Client

open Unicode (trimEnd)
open Url

/-- The base of a client can be read, so it can be taken apart. -/
theorem exists_layout {raw : String} {c : Client} (hc : ofText raw = .ok c) :
    ∃ l : Layout, l.text = c.base.toList := by
  unfold ofText at hc
  simp only at hc
  split at hc
  · rename_i hprefix
    rw [Bool.or_eq_true, List.isPrefixOf_iff_prefix, List.isPrefixOf_iff_prefix] at hprefix
    obtain ⟨s, hs, cs, hcs⟩ : ∃ s : Scheme, s.isWeb = true ∧
        ∃ cs, normalize raw = s.name ++ ':' :: '/' :: '/' :: cs := by
      obtain ⟨cs, hcs⟩ | ⟨cs, hcs⟩ := hprefix
      · exact ⟨.http, rfl, cs, hcs.symm.trans (by simp [Scheme.name])⟩
      · exact ⟨.https, rfl, cs, hcs.symm.trans (by simp [Scheme.name])⟩
    rw [hcs] at hc
    cases hread : Url.read none (s.name ++ ':' :: '/' :: '/' :: cs) with
    | error flaw =>
      rw [hread] at hc
      cases hc
    | ok g =>
      rw [hread] at hc
      cases hc
      obtain ⟨l, hl⟩ := Layout.exists_of_read hs hread
      exact ⟨l, by rw [hl, String.toList_ofList]⟩
  · cases hc

variable {c : Client} {l : Layout}

theorem path_toList (r : Request) : r.path.toList = '/' :: r.behind := by
  cases r with
  | service id =>
    have hpath : (Request.service id).path = "/services/" ++ id := rfl
    have hbehind : (Request.service id).behind = "services".toList ++ '/' :: id.toList := rfl
    rw [hpath, hbehind, String.toList_append]
    simp only [String.reduceToList, List.cons_append, List.nil_append]
  | tasks filter | nodes => exact String.toList_ofList

/-- A base that ends as a path does, seen by its parts. -/
theorem isPathLike_iff (hl : l.text = c.base.toList) : c.isPathLike = true ↔
    (∀ d ∈ l.rest, endsPath d = false) ∧ l.ending = [] ∧
      ∀ d ∈ l.rest.getLast?, l.scheme.isSlash d = false := by
  have hslash : Scheme.http.isSlash = l.scheme.isSlash := by
    funext d
    rw [Scheme.isSlash, Scheme.isSlash, l.special]
    rfl
  rw [isPathLike, ← hl, hslash]
  simp only [l.any_endsPath_flat]
  rw [Bool.and_eq_true, l.all_getLast?_flat, Bool.not_eq_true', List.any_eq_false]
  simp

/-- The URL of a request. -/
theorem url_eq (hl : l.text = c.base.toList) (h : l.rest ≠ [] ∨ l.ending = []) (r : Request) :
    c.url r = .ok ((withRest l.scheme l.root
      (l.rest ++ l.ending ++ '/' :: flat (trimEnd isControl r.behind))).withPairs r.pairs) := by
  have htext : (c.base ++ r.path).toList = l.text ++ '/' :: r.behind := by
    rw [String.toList_append, path_toList, hl]
  rw [url, htext, l.read_path h]

theorem url_refused (hl : l.text = c.base.toList) (hrest : l.rest = []) (hending : l.ending ≠ [])
    (r : Request) (u : Url) : c.url r ≠ .ok u := by
  have htext : (c.base ++ r.path).toList = l.text ++ '/' :: r.behind := by
    rw [String.toList_append, path_toList, hl]
  obtain ⟨flaw, hflaw⟩ := l.read_path_refused hrest hending r.behind
  rw [url, htext, hflaw]
  rintro ⟨⟩

/-- The segments that are read of what a request writes. -/
def readNames (s : Scheme) : Request → List (List Char)
  | .service id => "services".toList :: readSegments s id.toList
  | .tasks _ => ["tasks".toList]
  | .nodes => ["nodes".toList]

/-- The names that the client writes itself are plain, and are their own encoded forms. -/
theorem fixed_names : ∀ name ∈ ["services".toList, "tasks".toList, "nodes".toList],
    isPlainSegment name = true ∧ encode inPathSet name = name := by
  decide +kernel

theorem flat_behind_service (id : String) :
    flat (trimEnd isControl (Request.service id).behind) =
      "services".toList ++ '/' :: flat (trimEnd isControl id.toList) := by
  have hbehind : (Request.service id).behind = "services".toList ++ '/' :: id.toList := rfl
  have hservices : flat "services".toList = "services".toList := by decide +kernel
  rw [hbehind, trimEnd_append_cons (by decide), flat_append, flat_cons (by decide), hservices]

theorem readSegments_behind {s : Scheme} (hs : s.isSpecial = true) (r : Request) :
    readSegments s r.behind = readNames s r := by
  cases r with
  | service id =>
    have hservices := (fixed_names "services".toList (by simp)).1
    have hslash : s.isSlash '/' = true := by simp [Scheme.isSlash]
    have hmarks : ∀ d ∈ "services".toList, (!endsPath d) = true := fun d hd => by
      rw [endsPath_of_plain hservices hd]
      rfl
    have htake : ("services".toList ++ '/' :: flat (trimEnd isControl id.toList)).takeWhile
        (fun c => !endsPath c) = "services".toList ++
          '/' :: (flat (trimEnd isControl id.toList)).takeWhile fun c => !endsPath c := by
      rw [List.takeWhile_append_of_pos hmarks]
      rfl
    have hnames := readSegments_plain hs hservices
    rw [readSegments, flat_trimEnd_plain hservices, takeWhile_plain hservices] at hnames
    rw [readSegments, flat_behind_service, htake, segments_append_cons hslash, hnames]
    rfl
  | tasks filter => exact readSegments_plain hs (fixed_names "tasks".toList (by simp)).1
  | nodes => exact readSegments_plain hs (fixed_names "nodes".toList (by simp)).1

/-- No path consists of its own folder and names. -/
theorem ne_folderOf_append {r : Request} {names : List (List Char)} (h : r.Names names)
    (path : List (List Char)) : path ≠ folderOf path ++ names := by
  intro heq
  unfold folderOf at heq
  split at heq
  · rename_i hlast
    obtain ⟨front, rfl⟩ := List.getLast?_eq_some_iff.1 hlast
    rw [List.dropLast_concat] at heq
    have hnames := List.append_cancel_left heq
    cases h with
    | service => simp at hnames
    | tasks | nodes => simp at hnames
  · have hnames := List.append_right_eq_self.1 heq.symm
    cases h with
    | service | tasks | nodes => cases hnames

theorem names_length {r : Request} {ns ms : List (List Char)} (hn : r.Names ns)
    (hm : r.Names ms) : ns.length = ms.length := by
  cases hn with
  | service =>
    cases hm with
    | service => rfl
  | tasks =>
    cases hm with
    | tasks => rfl
  | nodes =>
    cases hm with
    | nodes => rfl

/-- The names in a path that a plain request leads to. -/
theorem readNames_plain {s : Scheme} (hs : s.isSpecial = true) {r : Request}
    (h : r.isPlain = true) : r.Names ((readNames s r).map (encode inPathSet)) ∧
      ∀ n ∈ readNames s r, isDots n = false := by
  have hdots : ∀ n, isPlainSegment n = true → isDots n = false := fun n hn =>
    ((isPlainSegment_iff hs).1 hn).2.2.1
  have hservices := fixed_names "services".toList (by simp)
  have htasks := fixed_names "tasks".toList (by simp)
  have hnodes := fixed_names "nodes".toList (by simp)
  cases r with
  | service id =>
    have hid : isPlainSegment id.toList = true := h
    rw [readNames, readSegments_plain hs hid, List.map_cons, List.map_singleton, hservices.2]
    exact ⟨.service (spells_encode hid), List.forall_mem_cons.2
      ⟨hdots _ hservices.1, List.forall_mem_singleton.2 (hdots _ hid)⟩⟩
  | tasks filter =>
    rw [readNames, List.map_singleton, htasks.2]
    exact ⟨.tasks filter, List.forall_mem_singleton.2 (hdots _ htasks.1)⟩
  | nodes =>
    rw [readNames, List.map_singleton, hnodes.2]
    exact ⟨.nodes, List.forall_mem_singleton.2 (hdots _ hnodes.1)⟩

/-- A plain request writes nothing that ends a path. -/
theorem endsPath_behind {r : Request} (h : r.isPlain = true) {d : Char}
    (hd : d ∈ flat (trimEnd isControl r.behind)) : endsPath d = false := by
  have hfixed : ∀ name ∈ ["services".toList, "tasks".toList, "nodes".toList], ∀ d ∈ name,
      endsPath d = false := fun name hname d hd =>
    endsPath_of_plain (fixed_names name hname).1 hd
  cases r with
  | service id =>
    have hid : isPlainSegment id.toList = true := h
    rw [flat_behind_service, flat_trimEnd_plain hid] at hd
    obtain hd | hd := List.mem_append.1 hd
    · exact hfixed "services".toList (by simp) d hd
    · obtain rfl | hd := List.mem_cons.1 hd
      · rfl
      · exact endsPath_of_plain hid hd
  | tasks filter =>
    have hbehind : (Request.tasks filter).behind = "tasks".toList := rfl
    rw [hbehind, flat_trimEnd_plain (fixed_names "tasks".toList (by simp)).1] at hd
    exact hfixed "tasks".toList (by simp) d hd
  | nodes =>
    have hbehind : Request.nodes.behind = "nodes".toList := rfl
    rw [hbehind, flat_trimEnd_plain (fixed_names "nodes".toList (by simp)).1] at hd
    exact hfixed "nodes".toList (by simp) d hd

/-- A path that ends in what a request names was made of a plain request. -/
theorem isPlain_of_names {s : Scheme} (hs : s.isSpecial = true) {r : Request}
    {names folder front : List (List Char)} (h : r.Names names)
    (hpath : resolve [] (folder ++ readNames s r) = front ++ names) : r.isPlain = true := by
  cases h with
  | tasks | nodes => rfl
  | @service id segment hspells =>
    obtain ⟨before, last, hread⟩ : ∃ before last, readSegments s id.toList = before ++ [last] :=
      ⟨_, _, (List.dropLast_concat_getLast (segments_ne_nil _ _)).symm⟩
    have hbytes : decode segment = id.toList.flatMap bytesOf := by
      rw [hspells.1, ← bytes_ofList, String.ofList_toList]
    have hsplit : folder ++ readNames s (.service id) =
        (folder ++ "services".toList :: before) ++ [last] := by
      rw [readNames, hread]
      simp
    have hnames : front ++ ["services".toList, segment] =
        (front ++ ["services".toList]) ++ [segment] := by simp
    rw [hsplit, resolve_snoc, hnames, walk_concat] at hpath
    cases hdots : isDots last with
    | true =>
      -- Dots leave an empty segment, which stands for the empty name alone.
      rw [hdots, if_pos rfl] at hpath
      have hempty : [] = segment := List.singleton_inj.1 (List.append_inj' hpath rfl).2
      rw [← hempty, decode] at hbytes
      have hid : id.toList = [] := by
        cases hcs : id.toList with
        | nil => rfl
        | cons c cs =>
          rw [hcs, List.flatMap_cons] at hbytes
          exact absurd (List.append_eq_nil_iff.1 hbytes.symm).1 (bytesOf_ne_nil c)
      rw [hid] at hread
      have hwhole : [] ++ [[]] = before ++ [last] := hread
      have hlast : [] = last := List.singleton_inj.1 (List.append_inj' hwhole rfl).2
      rw [← hlast, isDots_nil] at hdots
      cases hdots
    | false =>
      rw [hdots, enter_of_not_dots hdots, List.reverse_cons, if_neg (by simp),
        List.append_nil] at hpath
      have hencode : encode inPathSet last = segment :=
        List.singleton_inj.1 (List.append_inj' hpath rfl).2
      rw [← hencode, decode_encode] at hbytes
      exact isPlainSegment_of_decode hs hread hdots hbytes

/-- What a request leads to shows how the base ends and what the request is. -/
theorem isPathLike_and_isPlain (hl : l.text = c.base.toList) {r : Request} {u : Url}
    (hu : c.url r = .ok u) (hleads : (withRest l.scheme l.root l.rest).LeadsTo r u) :
    c.isPathLike = true ∧ r.isPlain = true := by
  obtain ⟨names, hnames, rfl⟩ := hleads
  have hroot : l.rest ≠ [] ∨ l.ending = [] := by
    by_cases hrest : l.rest = []
    · by_cases hending : l.ending = []
      · exact .inr hending
      · exact absurd hu (url_refused hl hrest hending r _)
    · exact .inl hrest
  rw [url_eq hl hroot] at hu
  have hpath : (withRest l.scheme l.root
      (l.rest ++ l.ending ++ '/' :: flat (trimEnd isControl r.behind))).path =
      folderOf (withRest l.scheme l.root l.rest).path ++ names :=
    congrArg Url.path (Except.ok.inj hu)
  have hmarks : ∀ d ∈ l.rest, endsPath d = false := by
    by_cases hmarks : ∀ d ∈ l.rest, endsPath d = false
    · exact hmarks
    · rw [List.append_assoc, l.path_behind_mark hmarks] at hpath
      exact absurd hpath (ne_folderOf_append hnames _)
  rw [l.path_path hmarks hroot, l.path_text hmarks, ← readSegments,
    readSegments_behind l.special] at hpath
  have hplain := isPlain_of_names l.special hnames hpath
  obtain ⟨hread, hdots⟩ := readNames_plain l.special hplain
  have hne : readNames l.scheme r ≠ [] := by
    cases r <;> simp [readNames]
  rw [resolve_names hdots hne] at hpath
  have hfolder := (List.append_inj' hpath (names_length hread hnames)).1
  obtain ⟨hending, hslash⟩ := (l.folderOf_eq_iff hmarks hroot).1 hfolder.symm
  exact ⟨(isPathLike_iff hl).2 ⟨hmarks, hending, hslash⟩, hplain⟩

/-- A plain request behind a base that ends as a path does. -/
theorem exists_url_leadsTo (hl : l.text = c.base.toList) (hlike : c.isPathLike = true)
    {r : Request} (hplain : r.isPlain = true) :
    ∃ u, c.url r = .ok u ∧ (withRest l.scheme l.root l.rest).LeadsTo r u := by
  obtain ⟨hmarks, hending, hslash⟩ := (isPathLike_iff hl).1 hlike
  obtain ⟨hnames, hdots⟩ := readNames_plain l.special hplain
  have hne : readNames l.scheme r ≠ [] := by
    cases r <;> simp [readNames]
  have hpath := l.path_path hmarks (.inr hending) (flat (trimEnd isControl r.behind))
  rw [← readSegments, readSegments_behind l.special, resolve_names hdots hne,
    ← (l.folderOf_eq_iff hmarks (.inr hending)).2 ⟨hending, hslash⟩, ← l.path_text hmarks] at hpath
  refine ⟨_, url_eq hl (.inr hending) r, _, hnames, congrArg (Url.withPairs · r.pairs) ?_⟩
  have hend : (l.rest ++ l.ending ++ '/' :: flat (trimEnd isControl r.behind)).dropWhile
      (fun d => !endsPath d) = [] := by
    rw [hending, List.append_nil, List.dropWhile_eq_nil_iff]
    intro d hd
    obtain hd | hd := List.mem_append.1 hd
    · simp [hmarks d hd]
    · obtain rfl | hd := List.mem_cons.1 hd
      · rfl
      · simp [endsPath_behind hplain hd]
  simp only [withRest, hend] at hpath ⊢
  rw [hpath]
  rfl

theorem eq_of_target {base : Url} {a b : String} {ua ub : Url}
    (ha : base.LeadsTo (.service a) ua) (hb : base.LeadsTo (.service b) ub)
    (htarget : ua.target = ub.target) : a = b := by
  have htext : ∀ segment, Url.target (Url.withPairs { base with
      path := folderOf base.path ++ ["services".toList, segment], query := none,
      fragment := none } []) = String.ofList ((folderOf base.path).flatMap (fun s => '/' :: s) ++
        '/' :: "services".toList ++ ['/'] ++ segment ++ ['?']) := by
    intro segment
    simp [Url.target, Url.pathText, Url.queryText, Url.withPairs]
  obtain ⟨_, @⟨_, segmentA, hspellsA⟩, rfl⟩ := ha
  obtain ⟨_, @⟨_, segmentB, hspellsB⟩, rfl⟩ := hb
  have hsame : segmentA = segmentB := by
    have htexts := (htext segmentA).symm.trans (htarget.trans (htext segmentB))
    rw [String.ofList_inj] at htexts
    exact List.append_cancel_left (List.append_cancel_right htexts)
  refine bytes_injective ?_
  rw [← hspellsA.1, ← hspellsB.1, hsame]

end Client

/-- A client makes a request that leads to what it names, on the host and below the path of its
base, exactly if the base ends as a path does and the name is plain. Requests for different plain
names are different. -/
theorem url_leadsTo {raw : String} {c : Client} (hc : Client.ofText raw = .ok c) :
    ∃ base, Url.read none c.base.toList = .ok (.url base) ∧
      (∀ r, (∃ u, c.url r = .ok u ∧ base.LeadsTo r u) ↔
        c.isPathLike = true ∧ r.isPlain = true) ∧
      ∀ a b ua ub, c.url (.service a) = .ok ua → base.LeadsTo (.service a) ua →
        c.url (.service b) = .ok ub → base.LeadsTo (.service b) ub →
        ua.target = ub.target → a = b := by
  obtain ⟨l, hl⟩ := Client.exists_layout hc
  refine ⟨Url.withRest l.scheme l.root l.rest, hl ▸ l.read_text, fun r => ⟨?_, ?_⟩, ?_⟩
  · rintro ⟨u, hu, hleads⟩
    exact Client.isPathLike_and_isPlain hl hu hleads
  · rintro ⟨hlike, hplain⟩
    exact Client.exists_url_leadsTo hl hlike hplain
  · intro a b ua ub _ ha _ hb htarget
    exact Client.eq_of_target ha hb htarget

/-- Behind one base a plain name is asked for and others are not: a part of them is a query or a
fragment, or the name is taken for dots, for two segments or for an escape. -/
theorem url_leadsTo_loopback : ∃ c base, Client.ofText "tcp://[::1]:2375/v1/" = .ok c ∧
    Url.read none c.base.toList = .ok (.url base) ∧
    (∃ u, c.url (.service "web") = .ok u ∧ base.LeadsTo (.service "web") u) ∧
    (∀ id ∈ ["a?b", "a#b", "a/b", "a\\b", "..", "%61", "a "],
      ¬ ∃ u, c.url (.service id) = .ok u ∧ base.LeadsTo (.service id) u) ∧
    (c.url (.service "a#b")).map Url.target = (c.url (.service "a")).map Url.target := by
  have hc : Client.ofText "tcp://[::1]:2375/v1/" = .ok ⟨"http://[::1]:2375/v1"⟩ := by
    decide +kernel
  obtain ⟨base, hread, hleads, -⟩ := url_leadsTo hc
  refine ⟨⟨"http://[::1]:2375/v1"⟩, base, hc, hread,
    (hleads (.service "web")).2 (by decide +kernel), fun id hid h => ?_, by decide +kernel⟩
  have hplain : ∀ id ∈ ["a?b", "a#b", "a/b", "a\\b", "..", "%61", "a "],
      (Request.service id).isPlain = false := by decide +kernel
  have hyes := ((hleads (.service id)).1 h).2
  rw [hplain id hid] at hyes
  cases hyes

end Rollout
