import DialogueQuery.Http.Route
import DialogueQuery.Proofs.Text.CodePoints

/-! The route that a request takes has the method of the request, and its parameters
are texts taken from the path, as many as the route has places for them. -/

namespace DialogueQuery.Http

namespace Route

theorem matchSegments_parameters {segments : List Segment} {parts : List (List Char)}
    {parameters : List String} (h : matchSegments segments parts = some parameters) :
    parameters.length = segments.count .parameter ∧
      ∀ p ∈ parameters, Text.isWellFormed p = true := by
  fun_induction matchSegments segments parts generalizing parameters with
  | case1 =>
    cases h
    exact ⟨rfl, nofun⟩
  | case2 name part hpart =>
    cases h
    exact ⟨rfl, nofun⟩
  | case4 name segments parts hne ih =>
    obtain ⟨hlength, hall⟩ := ih h
    exact ⟨by simpa using hlength, hall⟩
  | case7 segments part parts hpart ih =>
    obtain ⟨rest, hrest, rfl⟩ := Option.map_eq_some_iff.mp h
    obtain ⟨hlength, hall⟩ := ih hrest
    refine ⟨by simp [hlength], fun p hp => ?_⟩
    rcases List.mem_cons.mp hp with rfl | hp
    · exact Text.isWellFormed_ofChars part
    · exact hall p hp
  | _ => cases h

theorem parameters?_some {r : Route} {path : List Char} {parameters : List String}
    (h : r.parameters? path = some parameters) :
    parameters.length = r.segments.count .parameter ∧
      ∀ p ∈ parameters, Text.isWellFormed p = true := by
  unfold parameters? at h
  split at h
  · exact matchSegments_parameters h
  · cases h

end Route

/-- A route is found by its method and by its path, from which its parameters are taken. -/
theorem Destination.find_route {method : String} {path : List Char} {r : Route}
    {parameters : List String} (h : find method path = .route r parameters) :
    r.method = method ∧ r.parameters? path = some parameters := by
  dsimp only [find] at h
  split at h
  · next r' hfound =>
    cases h
    have hmethod := List.find?_some hfound
    have hfits := (List.mem_filter.mp (List.mem_of_find?_eq_some hfound)).2
    obtain ⟨ps, hps⟩ := Option.isSome_iff_exists.mp hfits
    exact ⟨beq_iff_eq.mp hmethod, by rw [hps]; rfl⟩
  · cases h
  · split at h <;> cases h

namespace Target

theorem isWellFormed_queryOf {cs : List Char} {name value : String}
    (h : (name, value) ∈ queryOf cs) : Text.isWellFormed value = true := by
  obtain ⟨part, -, hpart⟩ := List.mem_map.mp h
  cases hpart
  exact Text.isWellFormed_ofChars _

theorem isWellFormed_parameter {target name value : String}
    (h : (ofText target).parameter? name = some value) : Text.isWellFormed value = true := by
  obtain ⟨before, after, hsplit, -⟩ := List.lookup_eq_some_iff.mp h
  have hmem : (name, value) ∈ (ofText target).query.reverse := by simp [hsplit]
  exact isWellFormed_queryOf (List.mem_reverse.mp hmem)

end Target

end DialogueQuery.Http
