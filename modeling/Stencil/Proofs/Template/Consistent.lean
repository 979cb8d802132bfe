import Stencil.Proofs.Expression.Steady
import Stencil.Proofs.Template.Identity

/-! Lookups do not depend on the cache. -/

namespace Stencil

variable {World : Type}

/-- A file of the source declares a fragment. -/
def TemplateKey.Declared (fetching : Fetching World) (key : TemplateKey) : Prop :=
  ∃ template, Cache.Offered fetching template ∧ template.key = key

/-- Different files do not share an identifier. -/
def TemplateKey.Apart (keys : TemplateKey → Prop) : Prop :=
  ∀ first second, keys first → keys second → first.id = second.id → first.path = second.path

namespace Cache

/-- Every cached template is offered by the source, and all templates of a registered file are
found. -/
structure Consistent (fetching : Fetching World) (cache : Cache) : Prop where
  sound : Sound fetching cache
  registered : ∀ path, cache.isFetched path = true → ∃ world markup templates,
    (fetching path world).1 = .ok markup ∧ Template.parseFile path markup = .ok templates ∧
      ∀ template ∈ templates, cache.find? template.id ≠ none

/-- Nothing is registered in an empty cache. -/
theorem consistent_empty (fetching : Fetching World) : Consistent fetching .empty :=
  ⟨sound_empty fetching, fun path known => by simp at known⟩

/-- A registration does not take a template away. -/
theorem find?_register_ne_none {cache : Cache} {id : String} (found : cache.find? id ≠ none)
    (path : String) (templates : List Template) :
    (cache.register path templates).find? id ≠ none := by
  rw [find?_register]
  intro missing
  exact found (Option.or_eq_none_iff.mp missing).1

/-- A file of the source is registered with what it holds. -/
theorem Consistent.register {fetching : Fetching World} {cache : Cache}
    (consistent : Consistent fetching cache) {path markup : String} {templates : List Template}
    {world : World} (answered : (fetching path world).1 = .ok markup)
    (parsed : Template.parseFile path markup = .ok templates) :
    Consistent fetching (cache.register path templates) := by
  refine ⟨consistent.sound.register answered parsed, fun other known => ?_⟩
  rw [isFetched_register, Bool.or_eq_true, decide_eq_true_eq] at known
  rcases known with before | rfl
  · obtain ⟨state, text, held, fetched, read, complete⟩ := consistent.registered other before
    exact ⟨state, text, held, fetched, read, fun template member =>
      find?_register_ne_none (complete template member) path templates⟩
  · refine ⟨world, markup, templates, answered, parsed, fun template member => ?_⟩
    rw [find?_register]
    intro missing
    have absent := List.find?_eq_none.mp (Option.or_eq_none_iff.mp missing).2 template member
    simp at absent

/-- A lookup keeps the cache consistent with the source. -/
theorem Consistent.resolve {fetching : Fetching World} {cache : Cache}
    (consistent : Consistent fetching cache) (key : TemplateKey) (world : World) :
    Consistent fetching (cache.resolve fetching key world).1.2 := by
  rcases resolve_cases fetching key cache world with
    ⟨held, -, result⟩ | ⟨-, -, result⟩ | ⟨-, -, result⟩
  · rw [result]
    exact consistent
  · rw [result]
    exact consistent
  · rw [result]
    rcases receive_cases cache key (fetching key.path world).1 with
      ⟨cause, -, received⟩ | ⟨markup, cause, -, -, received⟩ |
        ⟨markup, templates, answered, parsed, received⟩
    · rw [received]
      exact consistent
    · rw [received]
      exact consistent
    · rw [received]
      exact consistent.register answered parsed

/-- What a file with the given templates answers for a key. -/
def pick (templates : List Template) (key : TemplateKey) : Except TemplateError Template :=
  match templates.find? (·.id = key.id) with
  | some template => .ok template
  | none => .error (.notFound key.id key.path)

/-- The template under the identifier of a key is picked. -/
theorem pick_of_mem {templates : List Template}
    (distinct : (templates.map Template.id).Nodup) {template : Template}
    (member : template ∈ templates) {key : TemplateKey} (same : template.id = key.id) :
    pick templates key = .ok template := by
  cases search : templates.find? (·.id = key.id) with
  | none =>
      have absent := List.find?_eq_none.mp search template member
      simp [same] at absent
  | some other =>
      have here : other.id = key.id := by
        have found := List.find?_some search
        exact of_decide_eq_true found
      have equal : other = template :=
        Template.eq_of_id_eq distinct (List.mem_of_find?_eq_some search) member
          (here.trans same.symm)
      rw [pick, search, equal]

/-- Without a template under its identifier a key is not found. -/
theorem pick_of_notMem {templates : List Template} {key : TemplateKey}
    (absent : ∀ template ∈ templates, template.id ≠ key.id) :
    pick templates key = .error (.notFound key.id key.path) := by
  have missing : templates.find? (·.id = key.id) = none := by
    rw [List.find?_eq_none]
    intro template member
    simpa using absent template member
  rw [pick, missing]

/-- An identifier that is not cached is answered from the file that is registered. -/
theorem answer_register_of_missing {cache : Cache} {key : TemplateKey}
    (missing : cache.find? key.id = none) (path : String) (templates : List Template) :
    (cache.register path templates).answer key = pick templates key := by
  rw [answer, find?_register, missing, Option.none_or]
  rfl

/-- An answer of the source means the same to all caches that miss the key. -/
theorem receive_of_missing {cache : Cache} {key : TemplateKey}
    (missing : cache.find? key.id = none) (fetched : Except SourceError String) :
    (cache.receive key fetched).1 = (empty.receive key fetched).1 := by
  rcases receive_cases cache key fetched with
    ⟨cause, rfl, received⟩ | ⟨markup, cause, rfl, parsed, received⟩ |
      ⟨markup, templates, rfl, parsed, received⟩
  · rw [received, receive]
  · rw [received]
    simp only [receive, parsed]
  · rw [received]
    simp only [receive, parsed]
    rw [answer_register_of_missing missing, answer_register_of_missing (find?_empty _)]

/-- A fresh cache picks from the file of a key. -/
theorem resolve_empty_of_parse {fetching : Fetching World} {key : TemplateKey} {world : World}
    {markup : String} {templates : List Template}
    (answered : (fetching key.path world).1 = .ok markup)
    (parsed : Template.parseFile key.path markup = .ok templates) :
    (empty.resolve fetching key world).1.1 = pick templates key := by
  rw [resolve_empty, answered]
  simp only [receive, parsed]
  exact answer_register_of_missing (find?_empty _) _ _

/-- If identifiers tell files apart, a lookup is answered as by a fresh cache. -/
theorem Consistent.resolve_eq_fresh {fetching : Fetching World} {cache : Cache}
    {keys : TemplateKey → Prop} (consistent : Consistent fetching cache)
    (steady : ∀ path, Steady (fetching path)) (apart : TemplateKey.Apart keys)
    (declared : ∀ key, key.Declared fetching → keys key) {key : TemplateKey} (asked : keys key)
    (world fresh : World) :
    (cache.resolve fetching key world).1.1 = (empty.resolve fetching key fresh).1.1 := by
  rcases resolve_cases fetching key cache world with
    ⟨held, found, result⟩ | ⟨missing, known, result⟩ | ⟨missing, -, result⟩
  · obtain ⟨same, offered⟩ := consistent.sound key.id held found
    -- Identifiers tell files apart, so that the held template is of this file.
    have path : held.path = key.path := by
      obtain ⟨state, markup, answered, inFile⟩ := id offered
      have identified : held.key.id = key.id := by
        rw [← inFile.id_eq]
        exact same
      exact apart held.key key (declared held.key ⟨held, offered, rfl⟩) asked identified
    obtain ⟨state, markup, answered, templates, parsed, member⟩ := offered
    rw [path] at answered parsed
    rw [steady key.path state fresh] at answered
    rw [result, resolve_empty_of_parse answered parsed]
    exact (pick_of_mem (Template.nodup_ids_of_parseFile parsed) member same).symm
  · obtain ⟨state, markup, templates, answered, parsed, complete⟩ :=
      consistent.registered key.path known
    rw [steady key.path state fresh] at answered
    rw [result, resolve_empty_of_parse answered parsed]
    apply (pick_of_notMem _).symm
    intro template member same
    apply complete template member
    rw [same]
    exact missing
  · rw [result, resolve_empty, steady key.path fresh world]
    exact receive_of_missing missing _

end Cache

end Stencil
