import GatewayAgent.ControlPlane.Handlers
import GatewayAgent.Proofs.Dictionary
import GatewayAgent.Proofs.Text.Utf8
import GatewayAgent.Proofs.UserConfig.Route

/-!
# The lines of a rendered file

A request has one entry after the other, of four kinds (`UserUpdate.entries`). Rendering looks at
them in this order and either accepts them all or reports the first one that is not accepted. That
is the relation `Checks` between the entries and the outcome; the lines of the three parts satisfy
it (`checks_routeLine`, `checks_dnsLine`, `checks_directiveLine`), and so does what is put together
from them (`Checks.bind`, `Checks.mapM`).

An accepted entry, of whichever kind, has no control character
(`EntryKind.Accepts.controlFree`). So no entry brings a newline along, and splitting the text at its
newlines gives back the lines that it was put together from (`Text.linesOf_join`).

Main statement: `UserUpdate.render_line_by_line`.
-/

namespace GatewayAgent

/-! ### Lines -/

namespace Text

/-- The text split at its newlines. -/
def linesOf (text : String) : List String := (text.toList.splitOn '\n').map String.ofList

/-- No character of the text is a control character. -/
def ControlFree (s : String) : Prop := ∀ c ∈ s.toList, Control c = false

instance (s : String) : Decidable (ControlFree s) := List.decidableBAll _ s.toList

/-- The printable characters of ASCII are no control characters. -/
theorem control_eq_false {c : Char} (hlow : 0x20 ≤ c.toNat) (hhigh : c.toNat ≤ 0x7E) :
    Control c = false := by
  simp only [Control, Bool.or_eq_false_iff, Bool.and_eq_false_iff, decide_eq_false_iff_not]
  omega

/-- Two texts without control characters make one without. -/
theorem ControlFree.append {s t : String} (hs : ControlFree s) (ht : ControlFree t) :
    ControlFree (s ++ t) := by
  intro c hc
  rw [String.toList_append, List.mem_append] at hc
  exact hc.elim (hs c) (ht c)

/-- A text without control characters is a single line. -/
theorem ControlFree.newline_not_mem {s : String} (h : ControlFree s) : '\n' ∉ s.toList :=
  fun hc => absurd (h '\n' hc) (by decide)

/-- The lines of a text that ends each of them with a newline. -/
theorem linesOf_join {ls : List String} (h : ∀ l ∈ ls, ControlFree l) :
    linesOf (String.join (ls.map (· ++ "\n"))) = ls ++ [""] := by
  induction ls with
  | nil => rfl
  | cons l ls ih =>
    obtain ⟨hl, hls⟩ := List.forall_mem_cons.mp h
    -- The first newline of the text is the one behind its first line.
    have hsplit : (String.join ((l :: ls).map (· ++ "\n"))).toList =
        l.toList ++ '\n' :: (String.join (ls.map (· ++ "\n"))).toList := by
      rw [List.map_cons, String.join_cons, String.toList_append, String.toList_append,
        List.append_assoc]
      rfl
    rw [linesOf, hsplit, List.splitOn_append_cons_self_of_not_mem hl.newline_not_mem,
      List.map_cons, String.ofList_toList, ← linesOf, ih hls, List.cons_append]

end Text

/-! ### Entries -/

/-- What an entry of each kind may be. -/
def EntryKind.Accepts : EntryKind → String → Prop
  | .route, s => (Route.parse? s).isSome = true
  | .dnsServer, s => (IpAddress.parse? s).isSome = true
  | .directiveName, s =>
      s ≠ "" ∧ ∀ c ∈ s.toList, ('a' ≤ c ∧ c ≤ 'z') ∨ ('0' ≤ c ∧ c ≤ '9') ∨ c = '-'
  | .directiveValue, s => Text.ControlFree s

/-- An accepted entry, of whichever kind, can stand in a line. -/
theorem EntryKind.Accepts.controlFree {kind : EntryKind} {s : String} (h : kind.Accepts s) :
    Text.ControlFree s := by
  cases kind with
  | route =>
    obtain ⟨r, hr⟩ := Option.isSome_iff_exists.mp h
    intro c hc
    obtain ⟨hlow, hhigh⟩ := Route.routeChar_of_parse? hr c hc
    exact Text.control_eq_false (by omega) (by omega)
  | dnsServer =>
    obtain ⟨a, ha⟩ := Option.isSome_iff_exists.mp h
    intro c hc
    obtain ⟨hlow, hhigh⟩ := toNat_of_addressChar (IpAddress.addressChar_of_parse? ha c hc)
    exact Text.control_eq_false (by omega) (by omega)
  | directiveName =>
    intro c hc
    rcases h.2 c hc with ⟨hlow, hhigh⟩ | ⟨hlow, hhigh⟩ | rfl
    · exact Text.control_eq_false (Nat.le_trans (by decide) hlow) (Nat.le_trans hhigh (by decide))
    · exact Text.control_eq_false (Nat.le_trans (by decide) hlow) (Nat.le_trans hhigh (by decide))
    · decide
  | directiveValue => exact h

namespace RefusedEntry

/-- The entry is the first one of a list that is not accepted. -/
def IsFirstIn (r : RefusedEntry) (entries : List (EntryKind × String)) : Prop :=
  ∃ before after, entries = before ++ (r.kind, r.value) :: after ∧
    (∀ e ∈ before, e.1.Accepts e.2) ∧ ¬r.kind.Accepts r.value

variable {r r' : RefusedEntry} {entries entries' : List (EntryKind × String)}

/-- What is refused first stays so whatever comes after it. -/
theorem IsFirstIn.append_right (h : r.IsFirstIn entries) (entries' : List (EntryKind × String)) :
    r.IsFirstIn (entries ++ entries') := by
  obtain ⟨before, after, rfl, hbefore, hr⟩ := h
  exact ⟨before, after ++ entries', by simp, hbefore, hr⟩

/-- What is refused first stays so behind entries that are accepted. -/
theorem IsFirstIn.append_left (h : r.IsFirstIn entries')
    (hentries : ∀ e ∈ entries, e.1.Accepts e.2) : r.IsFirstIn (entries ++ entries') := by
  obtain ⟨before, after, rfl, hbefore, hr⟩ := h
  exact ⟨entries ++ before, after, by simp, List.forall_mem_append.mpr ⟨hentries, hbefore⟩, hr⟩

/-- Where an entry is refused, not all are accepted. -/
theorem IsFirstIn.not_forall (h : r.IsFirstIn entries) :
    ¬∀ e ∈ entries, e.1.Accepts e.2 := by
  obtain ⟨before, after, rfl, -, hr⟩ := h
  exact fun hall => hr (hall (r.kind, r.value) (by simp))

open Classical in
/-- The entry that is refused first is the first one that is found not to be accepted. -/
theorem IsFirstIn.find?_eq (h : r.IsFirstIn entries) :
    entries.find? (fun e => decide ¬e.1.Accepts e.2) = some (r.kind, r.value) := by
  obtain ⟨before, after, rfl, hbefore, hr⟩ := h
  refine List.find?_eq_some_iff_append.mpr ⟨by simpa using hr, before, after, rfl, ?_⟩
  simpa using fun kind value he => hbefore (kind, value) he

/-- There is at most one first entry that is not accepted. -/
theorem IsFirstIn.unique (h : r.IsFirstIn entries) (h' : r'.IsFirstIn entries) : r = r' := by
  have heq := Option.some.inj (h.find?_eq.symm.trans h'.find?_eq)
  cases r
  cases r'
  cases heq
  rfl

end RefusedEntry

/-! ### Looking at entries in their order -/

/-- The outcome of looking at some entries in their order: a result if all are accepted, and else
the first one that is not. -/
inductive Checks {β : Type} (entries : List (EntryKind × String)) (b : β) :
    Except RefusedEntry β → Prop
  | passed (h : ∀ e ∈ entries, e.1.Accepts e.2) : Checks entries b (.ok b)
  | refused {r : RefusedEntry} (h : r.IsFirstIn entries) : Checks entries b (.error r)

namespace Checks

variable {α β : Type} {entries entries' : List (EntryKind × String)} {a : α} {b : β}
  {x : Except RefusedEntry α}

/-- The outcome is a result if and only if all entries are accepted. -/
theorem eq_ok_iff (h : Checks entries a x) {v : α} :
    x = .ok v ↔ (∀ e ∈ entries, e.1.Accepts e.2) ∧ v = a := by
  cases h with
  | passed h => rw [Except.ok.injEq, and_iff_right h, @eq_comm _ a]
  | refused h => exact iff_of_false (by simp) fun hv => h.not_forall hv.1

/-- A check that fails tells the entry that is refused first. -/
theorem eq_error_iff (h : Checks entries a x) {r : RefusedEntry} :
    x = .error r ↔ r.IsFirstIn entries := by
  cases h with
  | passed h => simpa using fun hr => hr.not_forall h
  | refused h =>
    rw [Except.error.injEq]
    exact ⟨fun heq => heq ▸ h, h.unique⟩

/-- Where there is no entry, nothing is refused. -/
theorem pure (b : β) : Checks [] b (Pure.pure b) := .passed (by simp)

/-- Two checks in sequence check the entries of both, in order. -/
theorem bind {f : α → Except RefusedEntry β} (hx : Checks entries a x)
    (hf : Checks entries' b (f a)) : Checks (entries ++ entries') b (x >>= f) := by
  cases hx with
  | refused h => exact .refused (h.append_right entries')
  | passed h =>
    change Checks _ b (f a)
    generalize f a = y at hf
    cases hf with
    | passed h' => exact .passed (List.forall_mem_append.mpr ⟨h, h'⟩)
    | refused h' => exact .refused (h'.append_left h)

/-- What is done with the result does not change what is checked. -/
theorem map (hx : Checks entries a x) (f : α → β) : Checks entries (f a) (x.map f) := by
  cases hx with
  | passed h => exact .passed h
  | refused h => exact .refused h

/-- A check of each element checks the entries of all, in order. -/
theorem mapM {f : α → Except RefusedEntry β} {entriesOf : α → List (EntryKind × String)}
    {g : α → β} (h : ∀ a, Checks (entriesOf a) (g a) (f a)) (as : List α) :
    Checks (as.flatMap entriesOf) (as.map g) (as.mapM f) := by
  induction as with
  | nil => exact .pure []
  | cons a as ih =>
    -- What follows the last element looks at no entry.
    rw [List.mapM_cons, List.flatMap_cons, List.map_cons, ← List.append_nil (as.flatMap entriesOf)]
    exact (h a).bind (ih.bind (.pure _))

/-- An entry is refused unless it is accepted, and then it is left to the rest. -/
theorem ite {kind : EntryKind} {value : String} {p : Prop} [Decidable p]
    (hp : p ↔ kind.Accepts value) (hx : Checks entries a x) :
    Checks ((kind, value) :: entries) a (if p then x else .error ⟨kind, value⟩) := by
  split
  · next h =>
    have hone : ∀ e ∈ [(kind, value)], e.1.Accepts e.2 := by simpa using hp.mp h
    cases hx with
    | passed h' => exact .passed (List.forall_mem_cons.mpr ⟨hp.mp h, h'⟩)
    | refused h' => exact .refused (h'.append_left hone)
  · next h => exact .refused ⟨[], entries, rfl, by simp, mt hp.mpr h⟩

end Checks

/-! ### Usernames

The bounds are read off the definition of `Char.isAlphanum` by its connectives. -/

/-- Letters and digits lie between the digit zero and the small letter z. -/
theorem toNat_of_isAlphanum {c : Char} (h : c.isAlphanum = true) :
    0x30 ≤ c.toNat ∧ c.toNat ≤ 0x7A := by
  rcases (Bool.or_eq_true _ _).mp h with halpha | hdigit
  · rcases (Bool.or_eq_true _ _).mp halpha with hupper | hlower
    · obtain ⟨hlow, hhigh⟩ := of_decide_eq_true hupper
      exact ⟨Nat.le_trans (by decide) hlow, Nat.le_trans hhigh (by decide)⟩
    · obtain ⟨hlow, hhigh⟩ := (Bool.and_eq_true _ _).mp hlower
      exact ⟨Nat.le_trans (by decide) (of_decide_eq_true hlow), of_decide_eq_true hhigh⟩
  · obtain ⟨hlow, hhigh⟩ := (Bool.and_eq_true _ _).mp hdigit
    exact ⟨of_decide_eq_true hlow, Nat.le_trans (of_decide_eq_true hhigh) (by decide)⟩

/-- What may stand in a username lies between the dash and the small letter z. -/
theorem toNat_of_usernameChar {c : Char} (h : UsernameChar c = true) :
    0x2D ≤ c.toNat ∧ c.toNat ≤ 0x7A := by
  simp only [UsernameChar, Bool.or_eq_true, beq_iff_eq] at h
  rcases h with (((h | rfl) | rfl) | rfl) | rfl
  · have := toNat_of_isAlphanum h
    omega
  all_goals decide

/-- A username that is accepted has no control characters. -/
theorem controlFree_of_safeUsername {name : String} (h : SafeUsername name = true) :
    Text.ControlFree name := by
  simp only [SafeUsername, Bool.and_eq_true, List.all_eq_true] at h
  intro c hc
  obtain ⟨hlow, hhigh⟩ := toNat_of_usernameChar (h.2 c hc)
  exact Text.control_eq_false (by omega) (by omega)

/-! ### The lines of a file -/

/-- The line of a route. -/
theorem settingLine_route (value : String) : settingLine "route" value = "route = " ++ value := by
  rw [settingLine, show "route" ++ " = " = "route = " by decide]

/-- The line of a DNS server. -/
theorem settingLine_dns (value : String) : settingLine "dns" value = "dns = " ++ value := by
  rw [settingLine, show "dns" ++ " = " = "dns = " by decide]

/-- The line of a route checks the route, without the blanks around it. -/
theorem checks_routeLine (route : String) :
    Checks [(.route, Text.trim route)] ("route = " ++ Text.trim route) (routeLine route) := by
  rw [routeLine, ← settingLine_route]
  exact .ite Iff.rfl (.pure _)

/-- The line of a DNS server checks the server, without the blanks around it. -/
theorem checks_dnsLine (server : String) :
    Checks [(.dnsServer, Text.trim server)] ("dns = " ++ Text.trim server) (dnsLine server) := by
  rw [dnsLine, ← settingLine_dns]
  exact .ite Iff.rfl (.pure _)

/-- A directive name is accepted if it is not empty and made of small letters, digits and dashes. -/
theorem directiveName_iff {name : String} :
    DirectiveName name = true ↔ EntryKind.directiveName.Accepts name := by
  simp only [DirectiveName, DirectiveChar, Text.Digit, EntryKind.Accepts, Bool.and_eq_true,
    Bool.not_eq_true', String.isEmpty_eq_false_iff, List.all_eq_true, Bool.or_eq_true,
    decide_eq_true_eq, beq_iff_eq, or_assoc]

/-- A directive value is accepted if it has no control character. -/
theorem any_control_iff {value : String} :
    value.toList.any Text.Control = false ↔ EntryKind.directiveValue.Accepts value := by
  simp only [EntryKind.Accepts, Text.ControlFree, List.any_eq_false, Bool.not_eq_true]

/-- The name of a directive is looked at before its value. -/
theorem checks_directiveLine (d : String × String) :
    Checks [(.directiveName, d.1), (.directiveValue, d.2)] (d.1 ++ " = " ++ d.2)
      (directiveLine d) := by
  have hline : directiveLine d =
      if DirectiveName d.1 = true then
        if d.2.toList.any Text.Control = false then .ok (d.1 ++ " = " ++ d.2)
        else .error ⟨.directiveValue, d.2⟩
      else .error ⟨.directiveName, d.1⟩ := by
    rw [directiveLine, settingLine]
    cases DirectiveName d.1 <;> cases d.2.toList.any Text.Control <;> rfl
  rw [hline]
  exact .ite directiveName_iff (.ite any_control_iff (.pure _))

namespace UserUpdate

variable {u : UserUpdate} {text : String}

/-- The entries of a request in the order in which they are looked at. -/
def entries (u : UserUpdate) : List (EntryKind × String) :=
  u.routes.map (fun r => (.route, Text.trim r)) ++
    u.dnsServers.map (fun s => (.dnsServer, Text.trim s)) ++
    u.sortedDirectives.flatMap fun d => [(.directiveName, d.1), (.directiveValue, d.2)]

/-- The lines of the file of a request all of whose entries are accepted. -/
def settings (u : UserUpdate) : List String :=
  ("# Generated by warden for " ++ u.username) ::
    u.routes.map (fun r => "route = " ++ Text.trim r) ++
    u.dnsServers.map (fun s => "dns = " ++ Text.trim s) ++
    u.sortedDirectives.map fun d => d.1 ++ " = " ++ d.2

/-- The lines check every entry of the update, in order. -/
theorem checks_lines (u : UserUpdate) : Checks u.entries u.settings u.lines := by
  have hroutes := Checks.mapM checks_routeLine u.routes
  have hservers := Checks.mapM checks_dnsLine u.dnsServers
  have hdirectives := Checks.mapM checks_directiveLine u.sortedDirectives
  rw [← List.map_eq_flatMap] at hroutes hservers
  rw [entries, ← List.append_nil (List.flatMap _ _), List.append_assoc]
  exact hroutes.bind (hservers.bind (hdirectives.bind (.pure _)))

/-- A rendering checks every entry of the update, in order. -/
theorem checks_render (u : UserUpdate) :
    Checks u.entries (String.join (u.settings.map (· ++ "\n"))) u.render :=
  u.checks_lines.map fun ls => String.join (ls.map (· ++ "\n"))

/-! ### The directives in their order -/

/-- Sorting the directives neither loses nor adds one. -/
theorem sortedDirectives_perm (u : UserUpdate) :
    u.sortedDirectives.Perm u.directives.entries :=
  List.mergeSort_perm _ _

/-- A directive is among the sorted ones with the value that it has in the update. -/
theorem mem_sortedDirectives_iff {name value : String} :
    (name, value) ∈ u.sortedDirectives ↔ u.directives.find? name = some value :=
  u.sortedDirectives_perm.mem_iff.trans Dictionary.mem_entries_iff

/-- The names of the directives ascend in the order of their octets. -/
theorem sortedDirectives_pairwise (u : UserUpdate) :
    u.sortedDirectives.Pairwise fun d d' => Text.encode d.1 < Text.encode d'.1 := by
  have hle : u.sortedDirectives.Pairwise fun d d' => decide (d.1 ≤ d'.1) = true := by
    refine List.pairwise_mergeSort (fun a b c hab hbc => ?_) (fun a b => ?_) _
    · exact decide_eq_true (String.le_trans (of_decide_eq_true hab) (of_decide_eq_true hbc))
    · simpa using String.le_total a.1 b.1
  have hne : u.sortedDirectives.Pairwise fun d d' => d.1 ≠ d'.1 :=
    List.pairwise_map.mp ((u.sortedDirectives_perm.map Prod.fst).nodup_iff.mpr
      u.directives.keys_nodup)
  -- No name occurs twice, so the order is strict.
  exact hle.imp₂ (fun d d' hle hne =>
    Text.encode_lt_encode (Std.lt_of_le_of_ne (of_decide_eq_true hle) hne)) hne

/-! ### What is rendered -/

/-- Every entry is accepted, written out by kind. -/
theorem forall_accepts_iff :
    (∀ e ∈ u.entries, e.1.Accepts e.2) ↔
      (∀ r ∈ u.routes, (Route.parse? (Text.trim r)).isSome = true) ∧
      (∀ s ∈ u.dnsServers, (IpAddress.parse? (Text.trim s)).isSome = true) ∧
      ∀ name value, u.directives.find? name = some value →
        (name ≠ "" ∧ ∀ c ∈ name.toList, ('a' ≤ c ∧ c ≤ 'z') ∨ ('0' ≤ c ∧ c ≤ '9') ∨ c = '-') ∧
        ∀ c ∈ value.toList, Text.Control c = false := by
  rw [entries, List.forall_mem_append, List.forall_mem_append, List.forall_mem_map,
    List.forall_mem_map, and_assoc, List.forall_mem_flatMap]
  refine and_congr_right fun _ => and_congr_right fun _ => ?_
  constructor
  · intro h name value hfind
    have hd := h (name, value) (mem_sortedDirectives_iff.mpr hfind)
    exact ⟨hd (.directiveName, name) (by simp), hd (.directiveValue, value) (by simp)⟩
  · rintro h ⟨name, value⟩ hmem e he
    obtain ⟨hname, hvalue⟩ := h name value (mem_sortedDirectives_iff.mp hmem)
    rcases List.mem_pair.mp he with rfl | rfl
    · exact hname
    · exact hvalue

/-- There is one setting for the heading and one for each entry. -/
theorem length_settings (u : UserUpdate) :
    u.settings.length = 1 + u.routes.length + u.dnsServers.length + u.directives.size := by
  simp only [settings, List.length_append, List.length_cons, List.length_map,
    u.sortedDirectives_perm.length_eq, Dictionary.size]
  omega

/-- A setting is the heading or comes from an entry. -/
theorem mem_settings_iff {line : String} :
    line ∈ u.settings ↔ line = "# Generated by warden for " ++ u.username ∨
      (∃ r ∈ u.routes, "route = " ++ Text.trim r = line) ∨
      (∃ s ∈ u.dnsServers, "dns = " ++ Text.trim s = line) ∨
      ∃ name value, u.directives.find? name = some value ∧ name ++ " = " ++ value = line := by
  simp only [settings, List.mem_append, List.mem_cons, List.mem_map, Prod.exists,
    mem_sortedDirectives_iff, or_assoc]

/-- The settings of an accepted update are lines with something in them. -/
theorem controlFree_of_mem_settings (hsafe : SafeUsername u.username = true)
    (h : ∀ e ∈ u.entries, e.1.Accepts e.2) :
    ∀ line ∈ u.settings, line ≠ "" ∧ Text.ControlFree line := by
  simp only [entries, List.forall_mem_append, List.forall_mem_map, List.forall_mem_flatMap] at h
  obtain ⟨⟨hroutes, hservers⟩, hdirectives⟩ := h
  intro line hline
  rcases mem_settings_iff.mp hline with
    rfl | ⟨r, hr, rfl⟩ | ⟨s, hs, rfl⟩ | ⟨name, value, hfind, rfl⟩
  · exact ⟨by simp, .append (by decide) (controlFree_of_safeUsername hsafe)⟩
  · exact ⟨by simp, .append (by decide) (hroutes r hr).controlFree⟩
  · exact ⟨by simp, .append (by decide) (hservers s hs).controlFree⟩
  · have hd := hdirectives (name, value) (mem_sortedDirectives_iff.mpr hfind)
    have hname := hd (.directiveName, name) (by simp)
    have hvalue := hd (.directiveValue, value) (by simp)
    exact ⟨by simp, .append (.append hname.controlFree (by decide)) hvalue.controlFree⟩

/-- The text of an update has the settings as its lines, and ends with a newline. -/
theorem linesOf_of_render (hsafe : SafeUsername u.username = true) (h : u.render = .ok text) :
    Text.linesOf text = u.settings ++ [""] := by
  obtain ⟨haccepts, rfl⟩ := u.checks_render.eq_ok_iff.mp h
  exact Text.linesOf_join fun line hline =>
    (controlFree_of_mem_settings hsafe haccepts line hline).2

/-- **Line by line.** A request is rendered if and only if every one of its entries is accepted,
and otherwise the first that is not is reported. What is rendered has one line for the heading and
one for each entry, in the order of the request for the routes and the servers and in the order of
their names for the directives; none of them is empty, and no entry has brought a line along. -/
theorem render_line_by_line (u : UserUpdate) (hsafe : SafeUsername u.username = true) :
    ((∃ text, u.render = .ok text) ↔
      (∀ r ∈ u.routes, (Route.parse? (Text.trim r)).isSome = true) ∧
      (∀ s ∈ u.dnsServers, (IpAddress.parse? (Text.trim s)).isSome = true) ∧
      ∀ name value, u.directives.find? name = some value →
        (name ≠ "" ∧ ∀ c ∈ name.toList, ('a' ≤ c ∧ c ≤ 'z') ∨ ('0' ≤ c ∧ c ≤ '9') ∨ c = '-') ∧
        ∀ c ∈ value.toList, Text.Control c = false) ∧
    (∀ refused, u.render = .error refused ↔ refused.IsFirstIn u.entries) ∧
    (∀ text, u.render = .ok text →
      text = String.join (u.settings.map (· ++ "\n")) ∧
      Text.linesOf text = u.settings ++ [""] ∧
      u.settings.length = 1 + u.routes.length + u.dnsServers.length + u.directives.size ∧
      ∀ line ∈ u.settings, line ≠ "" ∧ Text.ControlFree line) ∧
    u.sortedDirectives.Perm u.directives.entries ∧
    u.sortedDirectives.Pairwise fun d d' => Text.encode d.1 < Text.encode d'.1 := by
  refine ⟨?_, fun refused => u.checks_render.eq_error_iff, fun text htext => ?_,
    u.sortedDirectives_perm, u.sortedDirectives_pairwise⟩
  · rw [← forall_accepts_iff]
    simp only [u.checks_render.eq_ok_iff, exists_and_left, exists_eq, and_true]
  · obtain ⟨haccepts, hjoin⟩ := u.checks_render.eq_ok_iff.mp htext
    exact ⟨hjoin, linesOf_of_render hsafe htext, u.length_settings,
      controlFree_of_mem_settings hsafe haccepts⟩

/-- A request with blanks around a route and with directives out of order. -/
def unsorted : UserUpdate where
  username := "alice"
  routes := [" default ", "10.0.0.0/8"]
  dnsServers := ["1.1.1.1"]
  directives := .ofList [("rx-data-per-sec", "1000"), ("idle-timeout", "600")]

/-- The directives are written in the order of their names, whatever order they were given in. -/
theorem unsorted_line_by_line :
    SafeUsername unsorted.username = true ∧ ∃ text, unsorted.render = .ok text ∧
      Text.linesOf text = ["# Generated by warden for alice", "route = default",
        "route = 10.0.0.0/8", "dns = 1.1.1.1", "idle-timeout = 600", "rx-data-per-sec = 1000",
        ""] := by
  have hsafe : SafeUsername unsorted.username = true := by decide
  have hentries : unsorted.directives.entries =
      [("rx-data-per-sec", "1000"), ("idle-timeout", "600")] := by decide
  have hsorted : unsorted.sortedDirectives =
      [("idle-timeout", "600"), ("rx-data-per-sec", "1000")] := by
    simp [sortedDirectives, hentries, List.mergeSort]
  obtain ⟨hrendered, -, hlines, -⟩ := render_line_by_line unsorted hsafe
  obtain ⟨text, htext⟩ := hrendered.mpr ⟨by decide, by decide, fun name value hfind => by
    rw [← Dictionary.mem_entries_iff, hentries] at hfind
    rcases List.mem_pair.mp hfind with h | h <;> cases h
    · exact ⟨directiveName_iff.mp (by decide), any_control_iff.mp (by decide)⟩
    · exact ⟨directiveName_iff.mp (by decide), any_control_iff.mp (by decide)⟩⟩
  refine ⟨hsafe, text, htext, ?_⟩
  rw [(hlines text htext).2.1, settings, hsorted]
  decide

end UserUpdate

end GatewayAgent
