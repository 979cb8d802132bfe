import Stencil.Proofs.Render.Closed

/-! What a render leaves behind in the context. -/

namespace Stencil

/-- Keys keep their places, new ones come last, and only some values differ. -/
structure Context.Frame (may : String → Prop) (before after : Context) : Prop where
  keys : before.keys <+: after.keys
  values : ∀ key, after.get? key ≠ before.get? key → may key

namespace Context

variable {may other : String → Prop}

theorem Frame.refl (context : Context) : Frame may context context :=
  ⟨List.prefix_refl _, fun _ changed => absurd rfl changed⟩

theorem Frame.trans {before middle after : Context} (first : Frame may before middle)
    (second : Frame may middle after) : Frame may before after := by
  refine ⟨first.keys.trans second.keys, fun key changed => ?_⟩
  by_cases same : after.get? key = middle.get? key
  · apply first.values key
    rw [← same]
    exact changed
  · exact second.values key same

theorem Frame.weaken {before after : Context} (frame : Frame may before after)
    (more : ∀ key, may key → other key) : Frame other before after :=
  ⟨frame.keys, fun key changed => more key (frame.values key changed)⟩

theorem frame_insert (context : Context) {key : String} (value : Value) (allowed : may key) :
    Frame may context (context.insert key value) := by
  constructor
  · rw [OrderedMap.keys_insert]
    split
    · exact List.prefix_refl _
    · exact List.prefix_append _ _
  · intro query changed
    rw [OrderedMap.get?_insert] at changed
    by_cases same : query = key
    · rw [same]
      exact allowed
    · rw [if_neg same] at changed
      exact absurd rfl changed

end Context

/-- Attributes that are read under none of the bases do not matter to a search. -/
theorem Qualified.find?_filter_ne {bases : List String} {name : String}
    (unread : ∀ base ∈ bases, qualifier? base name = none) (entries : List (String × String)) :
    find? bases (entries.filter (·.1 ≠ name)) = find? bases entries := by
  unfold find?
  induction entries with
  | nil => rfl
  | cons entry rest inductionHypothesis =>
      by_cases removed : entry.1 = name
      · have skipped : (bases.findSome? fun base => (qualifier? base entry.1).map fun qualifier =>
            (⟨base, entry.1, qualifier, entry.2⟩ : Qualified)) = none := by
          rw [List.findSome?_eq_none_iff]
          intro base among
          rw [removed, unread base among, Option.map_none]
        rw [List.filter_cons_of_neg (by simp [removed]), inductionHypothesis]
        simp only [List.findSome?_cons, skipped]
      · rw [List.filter_cons_of_pos (by simp [removed])]
        simp only [List.findSome?_cons, inductionHypothesis]

namespace Tag

/-- The test of an element stores its result under a key, in small letters. -/
def StoresTest (tag : Tag) (key : String) : Prop :=
  ∃ full ∈ tag.attributes.keys, ∃ base ∈ [Directive.test, Directive.not], ∃ name,
    Qualified.qualifier? base full = some (some name) ∧ key = Text.lowerCase name

/-- A test with a name behind it stores its result there. -/
theorem storesTest_of_guard {tag : Tag} {guard : Qualified} {name : String}
    (search : tag.guard? = some guard) (qualified : guard.qualifier = some name) :
    tag.StoresTest (Text.lowerCase name) := by
  obtain ⟨among, read, member⟩ := Qualified.find?_spec search
  rw [qualified] at read
  have held : guard.name ∈ tag.attributes.keys := List.mem_map_of_mem member
  exact ⟨guard.name, held, guard.base, among, name, read, rfl⟩

/-- A test is no repeat. -/
theorem qualifier?_guard_eq_none {tag : Tag} {guard : Qualified}
    (search : tag.guard? = some guard) :
    Qualified.qualifier? Directive.repeated guard.name = none := by
  obtain ⟨among, read, -⟩ := Qualified.find?_spec search
  cases repeated : Qualified.qualifier? Directive.repeated guard.name with
  | none => rfl
  | some qualifier =>
      have nested := List.prefix_or_prefix_of_prefix (Qualified.base_prefix read)
        (Qualified.base_prefix repeated)
      simp only [List.mem_cons, List.not_mem_nil, or_false] at among
      rcases among with base | base
      · rw [base] at nested
        exact absurd nested (by decide)
      · rw [base] at nested
        exact absurd nested (by decide)

/-- Removing its test does not change whether an element is repeated. -/
theorem repeat?_withoutGuard (tag : Tag) : tag.withoutGuard.repeat? = tag.repeat? := by
  unfold withoutGuard
  cases search : tag.guard? with
  | none => rfl
  | some guard =>
      apply Qualified.find?_filter_ne
      intro base among
      rw [List.mem_singleton.mp among]
      exact qualifier?_guard_eq_none search

end Tag

namespace Render

variable {World : Type}

/-- The context behind an action is the context before it, also when the action fails. -/
def Keeps {α : Type} (action : Render World α) : Prop :=
  ∀ scene, (leaves action scene).context = scene.context

/-- A scope gives its context back, whatever is done in it. -/
theorem keeps_inScope {α : Type} (change : Context → Context) (action : Render World α) :
    Keeps (inScope change action) := by
  intro scene
  rw [leaves_inScope]

/-- Steps that keep the context do so one behind the other. -/
theorem Keeps.bind {α β : Type} {action : Render World α} {next : α → Render World β}
    (first : Keeps action) (second : ∀ answer, Keeps (next answer)) : Keeps (action >>= next) := by
  intro scene
  have kept := first scene
  cases ran : action scene with
  | ok answer after =>
      rw [leaves_of_ok ran] at kept
      rw [leaves_bind_of_ok ran, ← kept]
      exact second answer after
  | error cause after =>
      rw [leaves_of_error ran] at kept
      rw [leaves_bind_of_error ran, kept]

theorem closed_keeps (host : Host World) : Closed host (@Keeps World) where
  pure _ _ := rfl
  bind := Keeps.bind
  evaluate _ _ := rfl
  interpolate _ _ := rfl

/-- An element that the walk reaches from a scene, outside of all repeats. -/
inductive Exposed (host : Host World) (includes : Render World (List Node)) :
    List Node → Scene World → Tag → Prop
  | here {scene : Scene World} {tag : Tag} {children rest : List Node} :
      Exposed host includes (.element tag children :: rest) scene tag
  | inside {scene tested inner : Scene World} {tag prepared found : Tag}
      {children rest : List Node} (unrepeated : tag.repeat? = none)
      (passed : passes host tag.guard? (scene.visiting (.element tag [])) = .ok true tested)
      (kept : prepare host includes tag.withoutGuard tested = .ok (prepared, none) inner)
      (exposed : Exposed host includes children inner found) :
      Exposed host includes (.element tag children :: rest) scene found
  | behind {scene next : Scene World} {node : Node} {rest nodes : List Node} {found : Tag}
      (rendered : renderNode host includes node scene = .ok nodes next)
      (exposed : Exposed host includes rest next found) :
      Exposed host includes (node :: rest) scene found

/-- The visited node and the exposed tests are what a walk may write. -/
def MayWrite (host : Host World) (includes : Render World (List Node)) (nodes : List Node)
    (scene : Scene World) (key : String) : Prop :=
  key = Context.currentNodeKey ∨
    ∃ tag, Exposed host includes nodes scene tag ∧ tag.StoresTest key

/-- Visiting writes the visited node only. -/
theorem frame_visiting (scene : Scene World) (node : Node) :
    Context.Frame (· = Context.currentNodeKey) scene.context (scene.visiting node).context :=
  Context.frame_insert _ _ rfl

/-- A test writes nothing but its result. -/
theorem frame_passes (host : Host World) (tag : Tag) (scene : Scene World) :
    Context.Frame tag.StoresTest scene.context
      (leaves (passes host tag.guard?) scene).context := by
  cases search : tag.guard? with
  | none => exact Context.Frame.refl _
  | some guard =>
      cases qualified : guard.qualifier with
      | none =>
          have kept : Keeps (passes host (some guard)) := by
            simp only [passes, qualified]
            apply (closed_keeps host).bind ((closed_keeps host).evaluate _)
            intro value
            exact (closed_keeps host).pure _
          rw [kept scene]
          exact Context.Frame.refl _
      | some name =>
          have written : ∃ passed, (leaves (passes host (some guard)) scene).context =
              scene.context.insert (Text.lowerCase name) (.bool passed) := by
            simp only [passes, qualified]
            exact ⟨_, rfl⟩
          obtain ⟨passed, result⟩ := written
          rw [result]
          exact Context.frame_insert _ _ (Tag.storesTest_of_guard search qualified)

/-- The stages of an element leave the context of its content alone. -/
theorem leaves_renderContent (host : Host World) (includes body : Render World (List Node))
    (tag : Tag) (scene : Scene World) :
    (leaves (renderContent host includes body tag) scene).context = scene.context ∨
      ∃ prepared inner, prepare host includes tag scene = .ok (prepared, none) inner ∧
        inner.context = scene.context ∧
        leaves (renderContent host includes body tag) scene = leaves body inner := by
  have kept := (closed_keeps host).prepare (fun change => keeps_inScope change includes) tag scene
  unfold renderContent
  cases ran : prepare host includes tag scene with
  | error cause inner =>
      left
      rw [leaves_of_error ran] at kept
      rw [leaves_bind_of_error ran]
      exact kept
  | ok answer inner =>
      obtain ⟨prepared, content⟩ := answer
      rw [leaves_of_ok ran] at kept
      rw [leaves_bind_of_ok ran]
      cases content with
      | some nodes => exact .inl kept
      | none =>
          -- Without a content of its own the element renders its children.
          right
          exact ⟨prepared, inner, rfl, kept, leaves_bind_pure body _ inner⟩

/-- An element leaves the context of its test, or that of its children. -/
theorem leaves_renderElement (host : Host World) (includes body : Render World (List Node))
    (tag : Tag) (scene : Scene World) :
    (leaves (renderElement host includes body tag) scene).context =
        (leaves (passes host tag.guard?) (scene.visiting (.element tag []))).context ∨
      ∃ tested prepared inner, tag.repeat? = none ∧
        passes host tag.guard? (scene.visiting (.element tag [])) = .ok true tested ∧
        prepare host includes tag.withoutGuard tested = .ok (prepared, none) inner ∧
        inner.context = tested.context ∧
        (leaves (renderElement host includes body tag) scene).context =
          (leaves body inner).context := by
  have visited : setCurrentNode (.element tag []) scene =
      .ok () (scene.visiting (.element tag [])) := rfl
  rw [renderElement, leaves_bind_of_ok visited]
  cases ran : passes host tag.guard? (scene.visiting (.element tag [])) with
  | error cause tested =>
      left
      rw [leaves_bind_of_error ran, leaves_of_error ran]
  | ok passed tested =>
      rw [leaves_bind_of_ok ran, leaves_of_ok ran]
      cases passed with
      | false =>
          left
          rfl
      | true =>
          simp only [if_true]
          split
          · rename_i directive search
            left
            -- The copies have scopes of their own, whatever they render.
            apply ((closed_keeps host).repeatEntries directive).bind
            intro entries
            exact (closed_keeps host).copies (fun change => keeps_inScope change _) _ 0 entries
          · rename_i search
            rw [leaves_bind_pure]
            rcases leaves_renderContent host includes body tag.withoutGuard tested with
              kept | ⟨prepared, inner, ready, kept, result⟩
            · exact .inl kept
            · right
              rw [tag.repeat?_withoutGuard] at search
              exact ⟨tested, prepared, inner, search, rfl, ready, kept, by rw [result]⟩

/-- An element writes what its children write, the node that is visited, and its own test. -/
theorem frame_renderElement {host : Host World} {includes : Render World (List Node)}
    {children : List Node}
    (within : ∀ inner, Context.Frame (MayWrite host includes children inner) inner.context
      (leaves (renderNodes host includes children) inner).context)
    (tag : Tag) (rest : List Node) (scene : Scene World) :
    Context.Frame (MayWrite host includes (.element tag children :: rest) scene) scene.context
      (leaves (renderNode host includes (.element tag children)) scene).context := by
  have visited : Context.Frame (MayWrite host includes (.element tag children :: rest) scene)
      scene.context (scene.visiting (.element tag [])).context :=
    (frame_visiting scene _).weaken fun key written => .inl written
  have tested : Context.Frame (MayWrite host includes (.element tag children :: rest) scene)
      (scene.visiting (.element tag [])).context
      (leaves (passes host tag.guard?) (scene.visiting (.element tag []))).context :=
    (frame_passes host tag _).weaken fun key stored => .inr ⟨tag, .here, stored⟩
  rw [renderNode]
  rcases leaves_renderElement host includes (renderNodes host includes children) tag scene with
    kept | ⟨after, prepared, inner, unrepeated, passed, ready, kept, result⟩
  · rw [kept]
    exact visited.trans tested
  · have inside : Context.Frame (MayWrite host includes (.element tag children :: rest) scene)
        inner.context (leaves (renderNodes host includes children) inner).context := by
      apply (within inner).weaken
      intro key written
      rcases written with node | ⟨found, exposed, stored⟩
      · exact .inl node
      · exact .inr ⟨found, .inside unrepeated passed ready exposed, stored⟩
    rw [leaves_of_ok passed, ← kept] at tested
    rw [result]
    exact (visited.trans tested).trans inside

/-- What the first node writes may be written behind it by the others. -/
theorem frame_append {host : Host World} {includes : Render World (List Node)} {node : Node}
    {rest : List Node} {scene : Scene World}
    (first : Context.Frame (MayWrite host includes (node :: rest) scene) scene.context
      (leaves (renderNode host includes node) scene).context)
    (others : ∀ next, Context.Frame (MayWrite host includes rest next) next.context
      (leaves (renderNodes host includes rest) next).context) :
    Context.Frame (MayWrite host includes (node :: rest) scene) scene.context
      (leaves (renderNodes host includes (node :: rest)) scene).context := by
  rw [renderNodes]
  cases ran : renderNode host includes node scene with
  | error cause next =>
      rw [leaves_of_error ran] at first
      rw [leaves_bind_of_error ran]
      exact first
  | ok nodes next =>
      -- The others start from where the first node ended, which exposure knows of.
      have second : Context.Frame (MayWrite host includes (node :: rest) scene) next.context
          (leaves (renderNodes host includes rest) next).context := by
        apply (others next).weaken
        intro key written
        rcases written with visited | ⟨found, exposed, stored⟩
        · exact .inl visited
        · exact .inr ⟨found, .behind ran exposed, stored⟩
      rw [leaves_of_ok ran] at first
      rw [leaves_bind_of_ok ran, leaves_bind_pure]
      exact first.trans second

/-- A walk writes only the visited node and the tests it reached outside of repeats. -/
theorem renderNodes_frame (host : Host World) (includes : Render World (List Node))
    (nodes : List Node) (scene : Scene World) :
    Context.Frame
      (fun key => key = Context.currentNodeKey ∨
        ∃ tag, Exposed host includes nodes scene tag ∧ tag.StoresTest key)
      scene.context (leaves (renderNodes host includes nodes) scene).context := by
  match nodes with
  | [] => exact Context.Frame.refl _
  | .comment content :: rest =>
      apply frame_append (Context.Frame.refl _)
      intro next
      exact renderNodes_frame host includes rest next
  | .text content :: rest =>
      apply frame_append ((frame_visiting scene (.text content)).weaken fun key => .inl)
      intro next
      exact renderNodes_frame host includes rest next
  | .element tag children :: rest =>
      have first := frame_renderElement (renderNodes_frame host includes children) tag rest scene
      apply frame_append first
      intro next
      exact renderNodes_frame host includes rest next

end Render

end Stencil
