import GatewayAgent.Proofs.UserConfig.Render

/-!
# Directives with the name of a route or of a server

Routes, DNS servers and directives all become lines `name = value`. A name has no blank, so a line
tells its name from its value (`append_eq_append_iff_of_space`), and the lines under a name are
those of the routes or of the servers, if it is their name, and the line of the directive of that
name (`mem_linesOf_iff`). But of a directive's value only the control characters are looked at. So
the routes and the servers of a rendered file have all been checked just when no directive with one
of their two names has a value that would have been refused there (`network_lines_checked_iff`).
-/

namespace GatewayAgent

/-! ### Names and values -/

/-- The name ends at the first blank. -/
theorem append_eq_append_iff_of_space {name name' value value' : String}
    (h : ' ' ∉ name.toList) (h' : ' ' ∉ name'.toList) :
    name ++ " = " ++ value = name' ++ " = " ++ value' ↔ name = name' ∧ value = value' := by
  constructor
  · intro heq
    have hlist : name.toList ++ ' ' :: ('=' :: ' ' :: value.toList) =
        name'.toList ++ ' ' :: ('=' :: ' ' :: value'.toList) := by
      simpa using congrArg String.toList heq
    have hname : name = name' := by
      have hhead := congrArg (fun cs => (cs.splitOn ' ').head?) hlist
      simpa [List.splitOn_append_cons_self_of_not_mem, h, h', String.toList_inj] using hhead
    subst hname
    exact ⟨rfl, by simpa [String.toList_inj] using hlist⟩
  · rintro ⟨rfl, rfl⟩
    rfl

/-- The lines of a list of values under one name. -/
theorem exists_line_iff {key name value : String} (hkey : ' ' ∉ key.toList)
    (hname : ' ' ∉ name.toList) (values : List String) :
    (∃ v ∈ values, key ++ " = " ++ Text.trim v = name ++ " = " ++ value) ↔
      name = key ∧ value ∈ values.map Text.trim := by
  simp only [append_eq_append_iff_of_space hkey hname, List.mem_map]
  constructor
  · rintro ⟨v, hv, rfl, rfl⟩
    exact ⟨rfl, v, hv, rfl⟩
  · rintro ⟨rfl, v, hv, rfl⟩
    exact ⟨v, hv, rfl, rfl⟩

theorem space_not_mem_of_accepts {name : String} (h : EntryKind.directiveName.Accepts name) :
    ' ' ∉ name.toList :=
  fun hc => absurd (h.2 ' ' hc) (by decide)

/-- No setting has the first character of the heading. -/
theorem ne_heading_of_accepts {name value username : String}
    (h : EntryKind.directiveName.Accepts name) :
    name ++ " = " ++ value ≠ "# Generated by warden for " ++ username := by
  intro heq
  obtain ⟨c, cs, hcs⟩ := List.exists_cons_of_ne_nil (by simpa using h.1 : name.toList ≠ [])
  have hlist := congrArg (fun s => s.toList.head?) heq
  simp only [String.toList_append, hcs, List.cons_append, List.head?_cons] at hlist
  obtain rfl : c = '#' := Option.some.inj hlist
  exact absurd (h.2 '#' (by simp [hcs])) (by decide)

namespace UserUpdate

variable {u : UserUpdate} {text name value : String}

/-- The lines under a name that a directive can have. -/
theorem mem_linesOf_iff (hsafe : SafeUsername u.username = true) (hrender : u.render = .ok text)
    (hname : EntryKind.directiveName.Accepts name) :
    name ++ " = " ++ value ∈ Text.linesOf text ↔
      (name = "route" ∧ value ∈ u.routes.map Text.trim) ∨
      (name = "dns" ∧ value ∈ u.dnsServers.map Text.trim) ∨
      u.directives.find? name = some value := by
  have haccepts := (forall_accepts_iff.mp (u.checks_render.eq_ok_iff.mp hrender).1).2.2
  have hspace := space_not_mem_of_accepts hname
  have hdirective : (∃ name' value', u.directives.find? name' = some value' ∧
      name' ++ " = " ++ value' = name ++ " = " ++ value) ↔
      u.directives.find? name = some value := by
    refine ⟨?_, fun h => ⟨name, value, h, rfl⟩⟩
    rintro ⟨name', value', hfind, heq⟩
    obtain ⟨rfl, rfl⟩ := (append_eq_append_iff_of_space
      (space_not_mem_of_accepts (haccepts name' value' hfind).1) hspace).mp heq
    exact hfind
  -- The heading is no setting, and behind the last newline there is nothing.
  rw [linesOf_of_render hsafe hrender, List.mem_append, mem_settings_iff,
    or_iff_right (ne_heading_of_accepts hname), or_iff_left (by simp), hdirective]
  simp only [← settingLine_route, ← settingLine_dns, settingLine]
  rw [exists_line_iff (by decide) hspace, exists_line_iff (by decide) hspace]

/-- **Checked lines.** Every route and every server in a rendered file is one that is accepted if
and only if this holds of the values of the directives with one of the two names. -/
theorem network_lines_checked_iff (hsafe : SafeUsername u.username = true)
    (hrender : u.render = .ok text) :
    (∀ x, ("route = " ++ x ∈ Text.linesOf text → (Route.parse? x).isSome = true) ∧
      ("dns = " ++ x ∈ Text.linesOf text → (IpAddress.parse? x).isSome = true)) ↔
    ∀ x, (u.directives.find? "route" = some x → (Route.parse? x).isSome = true) ∧
      (u.directives.find? "dns" = some x → (IpAddress.parse? x).isSome = true) := by
  obtain ⟨hroutes, hservers, -⟩ :=
    forall_accepts_iff.mp (u.checks_render.eq_ok_iff.mp hrender).1
  have hroute (x : String) : "route = " ++ x ∈ Text.linesOf text ↔
      x ∈ u.routes.map Text.trim ∨ u.directives.find? "route" = some x := by
    rw [← settingLine_route, settingLine,
      mem_linesOf_iff hsafe hrender (directiveName_iff.mp (by decide))]
    simp
  have hserver (x : String) : "dns = " ++ x ∈ Text.linesOf text ↔
      x ∈ u.dnsServers.map Text.trim ∨ u.directives.find? "dns" = some x := by
    rw [← settingLine_dns, settingLine,
      mem_linesOf_iff hsafe hrender (directiveName_iff.mp (by decide))]
    simp
  -- The lines of the request's own routes and servers hold what has been checked.
  refine forall_congr' fun x => and_congr ?_ ?_
  · rw [hroute, or_imp, and_iff_right]
    intro hx
    obtain ⟨r, hr, rfl⟩ := List.mem_map.mp hx
    exact hroutes r hr
  · rw [hserver, or_imp, and_iff_right]
    intro hx
    obtain ⟨s, hs, rfl⟩ := List.mem_map.mp hx
    exact hservers s hs

/-- A request without routes that has a directive `route`. -/
def withRouteDirective (value : String) : UserUpdate where
  username := "alice"
  routes := []
  dnsServers := []
  directives := .ofList [("route", value)]

theorem find?_withRouteDirective (value name : String) :
    (withRouteDirective value).directives.find? name =
      if name = "route" then some value else none :=
  Dictionary.find?_insert .empty "route" name value

/-- Its file has the heading and the line of the directive. -/
theorem render_withRouteDirective {value : String} (h : Text.ControlFree value) :
    (withRouteDirective value).render =
      .ok (headingLine "alice" ++ "\n" ++ (settingLine "route" value ++ "\n")) := by
  have hsettings :
      (withRouteDirective value).settings = [headingLine "alice", settingLine "route" value] := by
    rw [settings, show (withRouteDirective value).sortedDirectives = [("route", value)] from
      List.mergeSort_singleton _]
    rfl
  refine (checks_render _).eq_ok_iff.mpr ⟨forall_accepts_iff.mpr
    ⟨List.forall_mem_nil _, List.forall_mem_nil _, fun name v hfind => ?_⟩, ?_⟩
  · rw [find?_withRouteDirective] at hfind
    split_ifs at hfind with hname
    cases hfind
    subst hname
    exact ⟨directiveName_iff.mp (by decide), h⟩
  · rw [hsettings]
    simp only [List.map_cons, List.map_nil, String.join_cons, String.join_nil, String.append_empty]

/-- A directive can stand for a route that is one. -/
theorem route_by_directive_checked :
    SafeUsername (withRouteDirective "10.0.0.0/8").username = true ∧
      (withRouteDirective "10.0.0.0/8").render =
        .ok "# Generated by warden for alice\nroute = 10.0.0.0/8\n" ∧
      ∀ x, "route = " ++ x ∈ Text.linesOf "# Generated by warden for alice\nroute = 10.0.0.0/8\n" →
        (Route.parse? x).isSome = true := by
  have hsafe : SafeUsername (withRouteDirective "10.0.0.0/8").username = true := by decide
  have hrender : (withRouteDirective "10.0.0.0/8").render =
      .ok "# Generated by warden for alice\nroute = 10.0.0.0/8\n" :=
    (render_withRouteDirective (by decide)).trans (congrArg Except.ok (by decide))
  refine ⟨hsafe, hrender, fun x => ?_⟩
  refine ((network_lines_checked_iff hsafe hrender).mpr (fun v => ?_) x).1
  rw [find?_withRouteDirective, find?_withRouteDirective, if_pos rfl, if_neg (by decide)]
  refine ⟨fun hv => ?_, nofun⟩
  obtain rfl := Option.some.inj hv
  decide

/-- **A route that is none.** Of the value of a directive nothing but the control characters is
looked at, so with the name of a route it becomes one. -/
theorem bogus_route_rendered :
    SafeUsername (withRouteDirective "bogus").username = true ∧
      (withRouteDirective "bogus").render =
        .ok "# Generated by warden for alice\nroute = bogus\n" ∧
      "route = bogus" ∈ Text.linesOf "# Generated by warden for alice\nroute = bogus\n" ∧
      Route.parse? "bogus" = none :=
  ⟨by decide, (render_withRouteDirective (by decide)).trans (congrArg Except.ok (by decide)),
    by decide, by decide⟩

end UserUpdate

end GatewayAgent
