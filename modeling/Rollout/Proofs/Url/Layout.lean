import Rollout.Proofs.Url.Host

/-!
The text of a web URL, taken apart: what is read of it alone, and what is read when a path is
written behind it.
-/

namespace Rollout.Url

open Unicode (trimEnd)

/-- A path without the empty segment that a slash at its end leaves. -/
def folderOf (path : List (List Char)) : List (List Char) :=
  if path.getLast? = some [] then path.dropLast else path

theorem folderOf_snoc (xs : List (List Char)) (s : List Char) :
    folderOf (xs ++ [s]) = if s = [] then xs else xs ++ [s] := by
  simp [folderOf]

theorem isDots_append_controls {ks : List Char} (hks : ∀ k ∈ ks, isControl k = true)
    (hne : ks ≠ []) (s : List Char) : isDots (s ++ ks) = false := by
  obtain ⟨k, rest, rfl⟩ := List.exists_cons_of_ne_nil hne
  refine not_isDots_of_mem (c := k) (by simp) ?_
  exact control_forall (fun k => k ∉ ['%', '2', 'e', 'E', '.']) (by decide +kernel)
    (hks k List.mem_cons_self)

/-- The folder that a last segment leads to is what was walked with it, unless it is empty. -/
theorem folderOf_enter_eq (done : List (List Char)) (last : List Char) :
    folderOf ((enter done last).reverse ++ if isDots last then [[]] else []) =
      (enter done last).reverse ↔ last ≠ [] := by
  cases hdots : isDots last with
  | true =>
    have hne : last ≠ [] := by
      rintro rfl
      rw [isDots_nil] at hdots
      cases hdots
    simp [folderOf_snoc, hne]
  | false =>
    simp only [enter_of_not_dots hdots, List.reverse_cons, Bool.false_eq_true, if_false,
      List.append_nil, folderOf_snoc, encode_eq_nil]
    split
    · rename_i hnil
      simp [hnil]
    · rename_i hne
      simp [hne]

theorem enter_dots_length_le {last : List Char} (hdots : isDots last = true)
    (done : List (List Char)) : (enter done last).length ≤ done.length := by
  unfold enter
  rw [isDots, Bool.or_eq_true] at hdots
  split
  · exact leave_length_le done
  · rename_i hdouble
    rw [if_pos (hdots.resolve_left hdouble)]

/-- It is not what was walked with a segment that ends in controls. -/
theorem folderOf_enter_ne (done : List (List Char)) (last : List Char) {ks : List Char}
    (hks : ∀ k ∈ ks, isControl k = true) (hne : ks ≠ []) :
    folderOf ((enter done last).reverse ++ if isDots last then [[]] else []) ≠
      (enter done (last ++ ks)).reverse := by
  rw [enter_of_not_dots (isDots_append_controls hks hne last)]
  cases hdots : isDots last with
  | true =>
    -- Dots leave no segment of their own, but with controls behind them they would.
    intro heq
    have hlength := congrArg List.length heq
    have hle := enter_dots_length_le hdots done
    simp [folderOf_snoc] at hlength
    omega
  | false =>
    simp only [enter_of_not_dots hdots, List.reverse_cons, Bool.false_eq_true, if_false,
      List.append_nil, folderOf_snoc, encode_append]
    split
    · simp
    · simpa [encode_eq_nil] using hne

/-- The folder that a last segment leads to is what stands in front of a path behind it, unless
the segment is empty or controls were lost at its end. -/
theorem folderOf_enter_eq_iff (done : List (List Char)) {last ks : List Char}
    (hks : ∀ k ∈ ks, isControl k = true) :
    folderOf ((enter done last).reverse ++ if isDots last then [[]] else []) =
      (enter done (last ++ ks)).reverse ↔ ks = [] ∧ last ≠ [] := by
  by_cases hlost : ks = []
  · rw [hlost, List.append_nil, folderOf_enter_eq]
    simp
  · exact iff_of_false (folderOf_enter_ne done last hks hlost) (by simp [hlost])

/-- A text that is read as a URL: its scheme, the slashes behind that, an authority, and the rest.
Controls at its end are read only where something follows. -/
structure Layout where
  scheme : Scheme
  behind : List Char
  slashes : List Char
  authority : List Char
  rest : List Char
  ending : List Char
  root : Url
  web : scheme.isWeb = true
  shown_eq : flat (trimEnd isControl behind) = slashes ++ (authority ++ rest)
  flat_eq : flat behind = slashes ++ (authority ++ rest) ++ ending
  slash : ∀ c ∈ slashes, scheme.isSlash c = true
  ending_control : ∀ c ∈ ending, isControl c = true
  authority_ne : authority ≠ []
  authority_plain : ∀ c ∈ authority, endsAuthority scheme c = false
  rest_head : ∀ c ∈ rest.head?, endsAuthority scheme c = true
  root_eq : ofAuthority scheme authority = .ok root

namespace Layout

def text (l : Layout) : List Char := l.scheme.name ++ ':' :: '/' :: '/' :: l.behind

/-- Whatever is read as a web URL can be taken apart. -/
theorem exists_of_read {s : Scheme} (hs : s.isWeb = true) {cs : List Char} {g : Goal}
    (h : read none (s.name ++ ':' :: '/' :: '/' :: cs) = .ok g) :
    ∃ l : Layout, l.text = s.name ++ ':' :: '/' :: '/' :: cs := by
  obtain ⟨ks, hks, hcontrol⟩ := exists_trimEnd_append isControl cs
  have hflat : flat cs = flat (trimEnd isControl cs) ++ flat ks := by rw [← flat_append, ← hks]
  obtain ⟨slashes, body, hshown, hslash, hbody⟩ :=
    exists_span s.isSlash (flat (trimEnd isControl cs))
  obtain ⟨authority, rest, rfl, hauthority, hrest⟩ :=
    exists_span (fun c => !endsAuthority s c) body
  have hplain : ∀ c ∈ authority, endsAuthority s c = false := by simpa using hauthority
  have hends : ∀ c ∈ rest.head?, endsAuthority s c = true := by simpa using hrest
  rw [read_web hs, hshown, dropWhile_append_ends hslash hbody,
    ofAuthority_append (special_of_web hs) hplain hends] at h
  cases hroot : ofAuthority s authority with
  | error flaw =>
    rw [hroot] at h
    cases h
  | ok root =>
    have hne : authority ≠ [] := by
      rintro rfl
      rw [ofAuthority_nil hs] at hroot
      cases hroot
    exact ⟨{
      scheme := s
      behind := cs
      slashes := slashes
      authority := authority
      rest := rest
      ending := flat ks
      root := root
      web := hs
      shown_eq := hshown
      flat_eq := by rw [hflat, hshown]
      slash := hslash
      ending_control := fun c hc => hcontrol c (List.mem_filter.1 hc).1
      authority_ne := hne
      authority_plain := hplain
      rest_head := hends
      root_eq := hroot }, rfl⟩

variable (l : Layout)

theorem special : l.scheme.isSpecial = true := special_of_web l.web

theorem dropWhile_slashes (cs : List Char) :
    (l.slashes ++ (l.authority ++ cs)).dropWhile l.scheme.isSlash = l.authority ++ cs := by
  obtain ⟨c, a, ha⟩ := List.exists_cons_of_ne_nil l.authority_ne
  have hc : l.scheme.isSlash c = false :=
    (Bool.or_eq_false_iff.1 (l.authority_plain c (by simp [ha]))).1
  exact dropWhile_append_ends l.slash (by simpa [ha] using hc)

theorem read_text : read none l.text = .ok (.url (withRest l.scheme l.root l.rest)) := by
  rw [text, read_web l.web, l.shown_eq, dropWhile_slashes,
    ofAuthority_append l.special l.authority_plain l.rest_head, l.root_eq]
  rfl

theorem flat_text : flat l.text =
    l.scheme.name ++ [':', '/', '/'] ++ (l.slashes ++ (l.authority ++ l.rest) ++ l.ending) := by
  rw [text, flat_append, flat_name l.web, flat_cons (by decide), flat_cons (by decide),
    flat_cons (by decide), l.flat_eq]
  simp

/-- A query or a fragment begins in the rest if anywhere. -/
theorem any_endsPath_flat : (flat l.text).any endsPath = l.rest.any endsPath := by
  have hname : (l.scheme.name ++ [':', '/', '/']).any endsPath = false := by
    have hweb := l.web
    cases hs : l.scheme with
    | http | https => rfl
    | _ =>
      rw [hs] at hweb
      cases hweb
  have hslashes : l.slashes.any endsPath = false := by
    refine List.any_eq_false.2 fun d hd hends => ?_
    have hslash := l.slash d hd
    simp only [Scheme.isSlash, endsPath, Bool.or_eq_true, Bool.and_eq_true,
      decide_eq_true_eq] at hslash hends
    obtain rfl | ⟨rfl, -⟩ := hslash
    · revert hends
      decide
    · revert hends
      decide
  have hauthority : l.authority.any endsPath = false :=
    List.any_eq_false.2 fun d hd => by
      simp [(Bool.or_eq_false_iff.1 (l.authority_plain d hd)).2]
  have hending : l.ending.any endsPath = false :=
    List.any_eq_false.2 fun d hd => by simp [endsPath_of_control (l.ending_control d hd)]
  rw [flat_text, List.any_append, hname, List.any_append, List.any_append, hslashes,
    List.any_append, hauthority, hending, Bool.false_or, Bool.false_or, Bool.false_or,
    Bool.or_false]

/-- How a text ends. -/
theorem all_getLast?_flat : ((flat l.text).getLast?.all fun d =>
      !(isControl d || l.scheme.isSlash d)) = true ↔
    l.ending = [] ∧ ∀ d ∈ l.rest.getLast?, l.scheme.isSlash d = false := by
  have hsplit : (flat l.text).getLast? = (l.ending.getLast?.or
      (l.slashes ++ (l.authority ++ l.rest)).getLast?).or
        (l.scheme.name ++ [':', '/', '/']).getLast? := by
    rw [flat_text, List.getLast?_append, List.getLast?_append]
  cases hending : l.ending.getLast? with
  | some k =>
    have hk := l.ending_control k (List.mem_of_getLast? hending)
    have hne : l.ending ≠ [] := by
      rintro hnil
      rw [hnil] at hending
      cases hending
    simp [hsplit, hending, hk, hne]
  | none =>
    -- The last character is one of the rest or, without a rest, of the authority.
    obtain ⟨d, hd⟩ : ∃ d, l.authority.getLast? = some d :=
      ⟨_, List.getLast?_eq_some_getLast l.authority_ne⟩
    have hauthority : l.scheme.isSlash d = false :=
      (Bool.or_eq_false_iff.1 (l.authority_plain d (List.mem_of_getLast? hd))).1
    have hshown : (l.slashes ++ (l.authority ++ l.rest)).getLast? =
        some (l.rest.getLast?.getD d) := by
      rw [List.getLast?_append, List.getLast?_append, hd]
      cases l.rest.getLast? <;> rfl
    have hcontrol := getLast?_flat_trimEnd (l.shown_eq ▸ hshown)
    rw [hsplit, hending, hshown, Option.none_or, Option.some_or, Option.all_some, hcontrol,
      Bool.false_or, Bool.not_eq_true', List.getLast?_eq_none_iff.1 hending]
    cases l.rest.getLast? with
    | none => simpa using hauthority
    | some e => simp

theorem flat_append_path (cs : List Char) : flat (trimEnd isControl (l.behind ++ '/' :: cs)) =
    l.slashes ++ (l.authority ++ (l.rest ++ l.ending ++ '/' :: flat (trimEnd isControl cs))) := by
  rw [trimEnd_append_cons (by decide), flat_append, l.flat_eq, flat_cons (by decide)]
  simp

theorem text_append_path (cs : List Char) : l.text ++ '/' :: cs =
    l.scheme.name ++ ':' :: '/' :: '/' :: (l.behind ++ '/' :: cs) := by
  simp [text]

/-- A path behind the text is read as a part of the rest. -/
theorem read_path (h : l.rest ≠ [] ∨ l.ending = []) (cs : List Char) :
    read none (l.text ++ '/' :: cs) = .ok (.url (withRest l.scheme l.root
      (l.rest ++ l.ending ++ '/' :: flat (trimEnd isControl cs)))) := by
  have hhead : ∀ c ∈ (l.rest ++ l.ending ++ '/' :: flat (trimEnd isControl cs)).head?,
      endsAuthority l.scheme c = true := by
    cases hr : l.rest with
    | cons c rest => simpa [hr] using l.rest_head
    | nil =>
      have hnil : l.ending = [] := h.resolve_left (by simp [hr])
      simp [hnil, endsAuthority, Scheme.isSlash]
  rw [text_append_path, read_web l.web, flat_append_path, dropWhile_slashes,
    ofAuthority_append l.special l.authority_plain hhead, l.root_eq]
  rfl

/-- A text that ends behind its authority, in controls, leads nowhere with a path behind it: they
would belong to the host or the port. -/
theorem read_path_refused (hrest : l.rest = []) (hending : l.ending ≠ []) (cs : List Char) :
    ∃ flaw, read none (l.text ++ '/' :: cs) = .error flaw := by
  have hplain : ∀ c ∈ l.authority ++ l.ending, endsAuthority l.scheme c = false := fun c hc =>
    (List.mem_append.1 hc).elim (l.authority_plain c) fun hc =>
      endsAuthority_of_control (l.ending_control c hc)
  obtain ⟨flaw, hflaw⟩ :=
    ofAuthority_controls l.special l.authority_plain l.ending_control hending
  have hbody : l.authority ++ (l.rest ++ l.ending ++ '/' :: flat (trimEnd isControl cs)) =
      l.authority ++ l.ending ++ '/' :: flat (trimEnd isControl cs) := by simp [hrest]
  rw [text_append_path, read_web l.web, flat_append_path, dropWhile_slashes, hbody,
    ofAuthority_append l.special hplain (by simp [endsAuthority, Scheme.isSlash]), hflaw]
  exact ⟨flaw, rfl⟩

/-! ## Paths -/

/-- The segments that stand in front of a path behind the text. -/
def folders : List (List Char) :=
  match l.rest with
  | [] => []
  | _ :: written => segments l.scheme.isSlash (written ++ l.ending)

/-- The segments of the text alone. -/
def ownSegments : List (List Char) :=
  match l.rest with
  | [] => [[]]
  | _ :: written => segments l.scheme.isSlash written

theorem rest_slash (hmarks : ∀ c ∈ l.rest, endsPath c = false) {c : Char} {written : List Char}
    (hr : l.rest = c :: written) : l.scheme.isSlash c = true := by
  have hends := l.rest_head c (by simp [hr])
  rwa [endsAuthority, hmarks c (by simp [hr]), Bool.or_false] at hends

theorem path_text (hmarks : ∀ c ∈ l.rest, endsPath c = false) :
    (withRest l.scheme l.root l.rest).path = resolve [] l.ownSegments := by
  have htake : l.rest.takeWhile (fun c => !endsPath c) = l.rest := by
    rw [List.takeWhile_eq_self_iff]
    simpa using hmarks
  rw [withRest, htake]
  cases hr : l.rest with
  | nil => rw [pathOf_nil l.special, ownSegments, hr]
  | cons c written => rw [pathOf_cons (l.rest_slash hmarks hr), ownSegments, hr]

theorem path_path (hmarks : ∀ c ∈ l.rest, endsPath c = false) (h : l.rest ≠ [] ∨ l.ending = [])
    (cs : List Char) : (withRest l.scheme l.root (l.rest ++ l.ending ++ '/' :: cs)).path =
      resolve [] (l.folders ++ segments l.scheme.isSlash (cs.takeWhile fun c => !endsPath c)) := by
  have hfront : ∀ c ∈ l.rest ++ l.ending, endsPath c = false := fun c hc =>
    (List.mem_append.1 hc).elim (hmarks c) fun hc => endsPath_of_control (l.ending_control c hc)
  have hslash : l.scheme.isSlash '/' = true := by simp [Scheme.isSlash]
  have htake : (l.rest ++ l.ending ++ '/' :: cs).takeWhile (fun c => !endsPath c) =
      l.rest ++ l.ending ++ '/' :: cs.takeWhile fun c => !endsPath c := by
    rw [List.takeWhile_append_of_pos (by simpa using hfront)]
    rfl
  rw [withRest, htake]
  cases hr : l.rest with
  | nil =>
    rw [h.resolve_left (by simp [hr]), folders, hr]
    exact pathOf_cons hslash _
  | cons c written =>
    have hpath := pathOf_cons (l.rest_slash hmarks hr)
      (written ++ l.ending ++ '/' :: cs.takeWhile fun c => !endsPath c)
    rw [segments_append_cons hslash] at hpath
    rwa [folders, hr]

/-- Behind a mark nothing is a part of the path. -/
theorem path_behind_mark (hmarks : ¬ ∀ c ∈ l.rest, endsPath c = false) (cs : List Char) :
    (withRest l.scheme l.root (l.rest ++ cs)).path =
      (withRest l.scheme l.root l.rest).path := by
  have htake : (l.rest ++ cs).takeWhile (fun c => !endsPath c) =
      l.rest.takeWhile fun c => !endsPath c := by
    rw [List.takeWhile_append, if_neg]
    intro hlength
    have hall : ∀ c ∈ l.rest, (!endsPath c) = true := by
      rw [← List.takeWhile_eq_self_iff]
      exact (List.takeWhile_prefix _).eq_of_length hlength
    exact hmarks (by simpa using hall)
  rw [withRest, withRest, htake]

/-! ## Folders -/

/-- The segments in front of a path are those of the folder that the text alone leads to exactly
if nothing is lost at the end of the text, and it does not end in a slash. -/
theorem folderOf_eq_iff (hmarks : ∀ c ∈ l.rest, endsPath c = false)
    (h : l.rest ≠ [] ∨ l.ending = []) :
    folderOf (resolve [] l.ownSegments) = (walk [] l.folders).reverse ↔
      l.ending = [] ∧ ∀ c ∈ l.rest.getLast?, l.scheme.isSlash c = false := by
  cases hr : l.rest with
  | nil =>
    have hending := h.resolve_left (by simp [hr])
    simp only [ownSegments, folders, hr, hending]
    exact iff_of_true (by decide) (by simp)
  | cons c written =>
    obtain ⟨front, last, -, hlast, hempty, hsegments⟩ :=
      exists_segments_append l.scheme.isSlash written
    have hown := hsegments [] (by simp)
    rw [List.append_nil, List.append_nil] at hown
    rw [ownSegments, folders, hr]
    simp only
    rw [hown, hsegments l.ending fun k hk => isSlash_of_control (l.ending_control k hk),
      resolve_snoc, walk_concat, walk_concat, folderOf_enter_eq_iff _ l.ending_control]
    have hslash := l.rest_slash hmarks hr
    refine and_congr_right fun _ => ?_
    rw [Ne, hempty, List.getLast?_cons]
    cases written.getLast? with
    | none => simp [hslash]
    | some d => simp

end Layout

end Rollout.Url
