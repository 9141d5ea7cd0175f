import Mathlib
import Rollout.Proofs.Config.Layers
import Rollout.Proofs.Url.Parse

/-!
The engine that `DOCKER_HOST` names. It goes before the engine of the file unless it is a local
socket, whatever else it is; whether an engine can be reached there is only asked later, when the
client is made. So a value that is no URL of the net, and no local socket, takes the place of the
configured engine and the client cannot be made (`Config.docker_host`).
-/

namespace Rollout

/-! ## Environments without a variable -/

def Environment.without (env : Environment) (name : String) : Environment :=
  { env with vars := env.vars.filter fun v => v.1 != name }

namespace Environment

variable {env : Environment} {name other : String}

theorem bytes?_without (h : other ≠ name) : (env.without name).bytes? other = env.bytes? other := by
  simp only [bytes?, without]
  induction env.vars with
  | nil => rfl
  | cons v vars ih =>
    obtain ⟨key, value⟩ := v
    by_cases hkey : key = name
    · subst hkey
      have hother : (other == key) = false := beq_false_of_ne h
      simp [List.lookup_cons, hother, ih]
    · simp [List.lookup_cons, hkey, ih]

theorem text?_without (h : other ≠ name) : (env.without name).text? other = env.text? other := by
  rw [text?, text?, bytes?_without h]

theorem text?_without_self : (env.without name).text? name = none := by
  have hnone : (env.without name).bytes? name = none := by
    rw [bytes?, List.lookup_eq_none_iff]
    intro v hv
    have hne : v.1 ≠ name := by simpa using (List.mem_filter.1 hv).2
    exact bne_iff_ne.2 hne.symm
  rw [text?, hnone, Option.bind_none]

end Environment

namespace Config

/-! ## What the variable changes -/

variable {env : Environment} {host : String}

theorem engineFrom_docker_host (hurl : env.text? "CONVERGE_ENGINE_URL" = none)
    (hhost : env.text? "DOCKER_HOST" = some host) :
    engineFrom env = if isLocalSocket host then none else some host := by
  rw [engineFrom_eq, hurl, hhost]
  rfl

theorem overridesFrom_without (hurl : env.text? "CONVERGE_ENGINE_URL" = none) :
    overridesFrom (env.without "DOCKER_HOST") =
      (overridesFrom env).map fun o => { o with engineUrl := none } := by
  have hengine : engineFrom (env.without "DOCKER_HOST") = none := by
    rw [engineFrom_eq, Environment.text?_without (by decide), hurl,
      Environment.text?_without_self]
  have hsame : ∀ other, other ≠ "DOCKER_HOST" →
      (env.without "DOCKER_HOST").text? other = env.text? other := fun _ =>
    Environment.text?_without
  rw [overridesFrom, overridesFrom, hengine, hsame "CONVERGE_POLL_INTERVAL_MS" (by decide),
    hsame "CONVERGE_OUTPUT" (by decide)]
  cases readSetting number? .badInterval (env.text? "CONVERGE_POLL_INTERVAL_MS") with
  | error e => rfl
  | ok interval =>
    cases readSetting OutputMode.ofText? .unknownOutput (env.text? "CONVERGE_OUTPUT") with
    | error e => rfl
    | ok output => rfl

theorem source_without (fs : Files) (named : Option String) :
    source fs (env.without "DOCKER_HOST") named = source fs env named := by
  have hpath : standardPath? (env.without "DOCKER_HOST") = standardPath? env := by
    have htext : (env.without "DOCKER_HOST").text? "CONVERGE_ENV" = env.text? "CONVERGE_ENV" :=
      Environment.text?_without (by decide)
    rw [standardPath?, standardPath?, htext]
    rfl
  simp only [source, hpath]

/-- What is loaded is some base with the environment before it, and the base does not depend on the
variable. -/
theorem exists_base {fs : Files} {named : Option String} {c : Config}
    (h : load fs (env.without "DOCKER_HOST") named = .ok c) :
    ∃ base : Config, base.withEnvironment (env.without "DOCKER_HOST") = .ok c ∧
      load fs env named = base.withEnvironment env := by
  rw [load, bind_eq_ok] at h
  obtain ⟨s, hs, hc⟩ := h
  rw [source_without] at hs
  have hload : load fs env named = s.load fs env := by
    rw [load, hs]
    rfl
  rw [hload]
  cases s with
  | standard => exact ⟨standard, hc, rfl⟩
  | file path =>
    have hfile : ofFile fs (env.without "DOCKER_HOST") path = .ok c := hc
    simp only [ofFile, bind_eq_ok] at hfile
    obtain ⟨text, htext, base, hbase, hbaseEnv⟩ := hfile
    refine ⟨base, hbaseEnv, ?_⟩
    have hsame : ofFile fs env path = base.withEnvironment env := by
      rw [ofFile, htext]
      show ofText text >>= _ = _
      rw [hbase]
      rfl
    exact hsame

/-- The settings with the variable are those without it, but for the engine, which is the one that
the variable names unless that is a local socket. They have to be valid again. -/
theorem load_docker_host (hurl : env.text? "CONVERGE_ENGINE_URL" = none)
    (hhost : env.text? "DOCKER_HOST" = some host) {fs : Files} {named : Option String} {c : Config}
    (h : load fs (env.without "DOCKER_HOST") named = .ok c) :
    load fs env named =
      (if isLocalSocket host then c else { c with engineUrl := host }).validate := by
  obtain ⟨base, hbase, hload⟩ := exists_base h
  rw [hload, withEnvironment]
  rw [withEnvironment, overridesFrom_without hurl] at hbase
  have hengine := engineFrom_docker_host hurl hhost
  cases hread : overridesFrom env with
  | error e =>
    rw [hread] at hbase
    cases hbase
  | ok o =>
    rw [hread] at hbase
    obtain ⟨-, hc⟩ := validate_eq_ok.1 hbase
    have ho : o.engineUrl = engineFrom env := by
      obtain ⟨l, hl, rfl⟩ := overridesFrom_eq_ok.1 hread
      rw [engineFrom_eq, ← hl.engineUrl]
    have hsame : base.override o =
        if isLocalSocket host then c else { c with engineUrl := host } := by
      rw [← hc, override, ho, hengine]
      split <;> rfl
    show (base.override o).validate = _
    rw [hsame]

/-! ## Where a client can be made -/

/-- What the scheme of an engine is taken from. -/
def schemes : List String := ["tcp://", "http://", "https://"]

/-- A client is only made for a text that begins with a scheme, or with a blank. -/
theorem scheme_of_ofText {raw : String} {client : Client} (h : Client.ofText raw = .ok client) :
    (∃ scheme ∈ schemes, scheme.toList <+: raw.toList) ∨
      ∃ x ∈ raw.toList.head?, Unicode.isSpace x = true := by
  by_cases hblank : ∃ x ∈ raw.toList.head?, Unicode.isSpace x = true
  · exact .inr hblank
  refine .inl ?_
  have hstart : raw.toList.dropWhile Unicode.isSpace = raw.toList := by
    cases hraw : raw.toList with
    | nil => rfl
    | cons x cs => exact List.dropWhile_cons_of_neg fun hx => hblank ⟨x, by simp [hraw], hx⟩
  -- Without blanks in front, what is normalized is a beginning of the text.
  obtain ⟨trimmed, htrimmed, hprefix⟩ : ∃ trimmed : List Char,
      Unicode.trimEnd (· == '/') (Unicode.trim raw.toList) = trimmed ∧ trimmed <+: raw.toList := by
    obtain ⟨slashes, hslashes, -⟩ :=
      Url.exists_trimEnd_append (· == '/') (Unicode.trim raw.toList)
    obtain ⟨blanks, hblanks, -⟩ := Url.exists_trimEnd_append Unicode.isSpace raw.toList
    refine ⟨_, rfl, slashes ++ blanks, ?_⟩
    rw [← List.append_assoc, ← hslashes, Unicode.trim, hstart, ← hblanks]
  have hscheme : ∀ scheme ∈ schemes, scheme.toList.isPrefixOf trimmed = true →
      ∃ scheme ∈ schemes, scheme.toList <+: raw.toList := fun scheme hmem hp =>
    ⟨scheme, hmem, (List.isPrefixOf_iff_prefix.1 hp).trans hprefix⟩
  rw [Client.ofText, Client.normalize, htrimmed] at h
  by_cases htcp : "tcp://".toList.isPrefixOf trimmed = true
  · exact hscheme "tcp://" (by simp [schemes]) htcp
  rw [if_neg htcp] at h
  split at h
  case isFalse => cases h
  case isTrue hnet =>
    rcases Bool.or_eq_true _ _ ▸ hnet with hnet | hnet
    · exact hscheme "http://" (by simp [schemes]) hnet
    · exact hscheme "https://" (by simp [schemes]) hnet

theorem not_blank_of_ofText {raw : String} {client : Client} (h : Client.ofText raw = .ok client) :
    ∃ x ∈ raw.toList, Unicode.isSpace x = false := by
  by_cases hmem : ∃ x ∈ raw.toList, Unicode.isSpace x = false
  · exact hmem
  have hspaces : ∀ x ∈ raw.toList, Unicode.isSpace x = true := fun x hx => by
    simpa using fun hx' => hmem ⟨x, hx, hx'⟩
  have hnothing : Client.normalize raw = [] := by
    rw [Client.normalize, Unicode.trim, List.dropWhile_eq_nil_iff.2 hspaces]
    rfl
  rw [Client.ofText, hnothing] at h
  cases h

/-- A value of `DOCKER_HOST` without one of the three schemes leaves the configured engine in force
exactly if it is a local socket. Where the settings can be loaded without the value, and a client
can be made of them, that is so with it exactly if it is a local socket, or has blanks in front and
would be taken for an engine itself. -/
theorem docker_host (hurl : env.text? "CONVERGE_ENGINE_URL" = none)
    (hhost : env.text? "DOCKER_HOST" = some host)
    (hscheme : ∀ scheme ∈ ["tcp://", "http://", "https://"], ¬ scheme.toList <+: host.toList) :
    (∀ (c : Config) o, overridesFrom env = .ok o →
      (c.override o).engineUrl = if isLocalSocket host then c.engineUrl else host) ∧
    ∀ fs named c client, load fs (env.without "DOCKER_HOST") named = .ok c →
      Client.ofText c.engineUrl = .ok client →
      (isLocalSocket host = true → load fs env named = .ok c) ∧
      ((∃ d other, load fs env named = .ok d ∧ Client.ofText d.engineUrl = .ok other) ↔
        isLocalSocket host = true ∨
          (∃ x ∈ host.toList.head?, Unicode.isSpace x = true) ∧
            ∃ other, Client.ofText host = .ok other) := by
  refine ⟨fun c o ho => ?_, fun fs named c client hc hclient => ?_⟩
  · obtain ⟨l, hl, rfl⟩ := overridesFrom_eq_ok.1 ho
    have hengine := hl.engineUrl
    rw [← engineFrom_eq, engineFrom_docker_host hurl hhost] at hengine
    simp only [override, hengine]
    split <;> rfl
  have hload := load_docker_host hurl hhost hc
  obtain ⟨file, vars, -, -, hvalid, hsettled⟩ := (load_eq_ok fun _ => Iff.rfl).1 hc
  rw [hsettled] at hvalid
  cases hsocket : isLocalSocket host with
  | true =>
    rw [hsocket, if_pos rfl, validate_eq_ok.2 ⟨hvalid, rfl⟩] at hload
    exact ⟨fun _ => hload, fun _ => .inl rfl, fun _ => ⟨c, client, hload, hclient⟩⟩
  | false =>
    rw [hsocket, if_neg Bool.false_ne_true] at hload
    refine ⟨fun h => absurd h Bool.false_ne_true, ?_, ?_⟩
    · rintro ⟨d, other, hd, hother⟩
      rw [hload] at hd
      obtain ⟨-, rfl⟩ := validate_eq_ok.1 hd
      refine .inr ⟨?_, other, hother⟩
      rcases scheme_of_ofText hother with ⟨scheme, hmem, hprefix⟩ | hspace
      · exact absurd hprefix (hscheme scheme hmem)
      · exact hspace
    · rintro (h | ⟨-, other, hother⟩)
      · cases h
      · refine ⟨{ c with engineUrl := host }, other, ?_, hother⟩
        rw [hload]
        exact validate_eq_ok.2
          ⟨⟨not_blank_of_ofText hother, hvalid.interval, hvalid.timeout⟩, rfl⟩

private def overSsh : Environment := ⟨[("DOCKER_HOST", "ssh://me@h".toUTF8.toList)], ⟨none, none⟩⟩

private def loopback : String := "http://[::1]:2375"

private def content : String := "\x7b\"engine_url\":\"http://[::1]:2375\"\x7d"

private def folder : Files := ⟨[(["c"], .file content.toUTF8.toList)], []⟩

private theorem load_folder : load folder (overSsh.without "DOCKER_HOST") (some "/c") =
    .ok { standard with engineUrl := loopback } := by
  have hlook : folder.look "/c" = .ok (.file content.toUTF8.toList) := by decide +kernel
  have hread : folder.readText "/c" = .ok content := by
    rw [Files.readText, hlook]
    decide +kernel
  have hsource : source folder (overSsh.without "DOCKER_HOST") (some "/c") = .ok (.file "/c") := by
    rw [source, Files.exists?, hlook]
    rfl
  rw [load, hsource]
  show ofFile folder (overSsh.without "DOCKER_HOST") "/c" = _
  rw [ofFile, hread]
  decide +kernel

/-- A host that is reached over `ssh` takes the place of the engine in the file, and there is no
client for it. -/
theorem docker_host_over_ssh :
    (∃ c client, load folder (overSsh.without "DOCKER_HOST") (some "/c") = .ok c ∧
      c.engineUrl = loopback ∧ Client.ofText c.engineUrl = .ok client) ∧
    (∀ (c : Config) o, overridesFrom overSsh = .ok o →
      (c.override o).engineUrl = "ssh://me@h") ∧
    ¬ ∃ d other, load folder overSsh (some "/c") = .ok d ∧
      Client.ofText d.engineUrl = .ok other := by
  have hclient : Client.ofText loopback = .ok ⟨loopback⟩ := by decide +kernel
  have hsocket : isLocalSocket "ssh://me@h" = false := by decide +kernel
  have hurl : overSsh.text? "CONVERGE_ENGINE_URL" = none := by decide +kernel
  have hhost : overSsh.text? "DOCKER_HOST" = some "ssh://me@h" := by decide +kernel
  obtain ⟨hforce, hmade⟩ := docker_host hurl hhost (by decide +kernel)
  rw [hsocket] at hforce hmade
  refine ⟨⟨_, _, load_folder, rfl, hclient⟩, hforce, fun h => ?_⟩
  rcases (hmade _ _ _ _ load_folder hclient).2.1 h with hlocal | ⟨⟨x, hx, hspace⟩, -⟩
  · cases hlocal
  · have hfirst : x = 's' := by simpa using hx.symm
    rw [hfirst] at hspace
    exact absurd hspace (by decide)

end Config
end Rollout
