import Mathlib.Data.List.Nodup
import Stencil.Template.Cache

/-! What a lookup does to a cache. -/

namespace Stencil

namespace Template

/-- Only given templates are kept. -/
theorem mem_of_mem_keepFirst {seen : List String} {templates : List Template} {template : Template}
    (member : template ∈ keepFirst seen templates) : template ∈ templates := by
  induction templates generalizing seen with
  | nil => simp [keepFirst] at member
  | cons first rest inductionHypothesis =>
      rw [keepFirst] at member
      split at member
      · exact List.mem_cons_of_mem _ (inductionHypothesis member)
      · rcases List.mem_cons.mp member with rfl | behind
        · exact List.mem_cons_self
        · exact List.mem_cons_of_mem _ (inductionHypothesis behind)

/-- No template under a seen identifier is kept. -/
theorem id_notMem_of_mem_keepFirst {seen : List String} {templates : List Template}
    {template : Template} (member : template ∈ keepFirst seen templates) : template.id ∉ seen := by
  induction templates generalizing seen with
  | nil => simp [keepFirst] at member
  | cons first rest inductionHypothesis =>
      rw [keepFirst] at member
      split at member
      · exact inductionHypothesis member
      · rename_i fresh
        rcases List.mem_cons.mp member with rfl | behind
        · exact fresh
        · intro held
          exact inductionHypothesis behind (List.mem_cons_of_mem _ held)

/-- The templates that are kept have distinct identifiers. -/
theorem nodup_keepFirst (seen : List String) (templates : List Template) :
    ((keepFirst seen templates).map Template.id).Nodup := by
  induction templates generalizing seen with
  | nil => simp [keepFirst]
  | cons first rest inductionHypothesis =>
      rw [keepFirst]
      split
      · exact inductionHypothesis seen
      · rw [List.map_cons, List.nodup_cons]
        refine ⟨?_, inductionHypothesis _⟩
        intro again
        obtain ⟨other, member, same⟩ := List.mem_map.mp again
        exact id_notMem_of_mem_keepFirst member (by rw [same]; exact List.mem_cons_self)

/-- A file that parses holds the given template. -/
def InFile (path markup : String) (template : Template) : Prop :=
  ∃ templates, parseFile path markup = .ok templates ∧ template ∈ templates

/-- A template in a file is made of one of its elements. -/
theorem InFile.eq_ofElement {path markup : String} {template : Template}
    (inFile : InFile path markup template) : ∃ element, template = ofElement path element := by
  obtain ⟨templates, parsed, member⟩ := inFile
  unfold parseFile at parsed
  split at parsed
  · simp at parsed
  · rename_i nodes _
    simp only [Except.ok.injEq] at parsed
    subst parsed
    obtain ⟨element, _, made⟩ := List.mem_map.mp (mem_of_mem_keepFirst member)
    exact ⟨element, made.symm⟩

/-- A template remembers the path of its file. -/
theorem InFile.path_eq {path markup : String} {template : Template}
    (inFile : InFile path markup template) : template.path = path := by
  obtain ⟨element, rfl⟩ := inFile.eq_ofElement
  rfl

/-- A template is identified by its own path and name. -/
theorem InFile.id_eq {path markup : String} {template : Template}
    (inFile : InFile path markup template) : template.id = template.key.id := by
  obtain ⟨element, rfl⟩ := inFile.eq_ofElement
  rfl

/-- No two templates of a file share an identifier. -/
theorem nodup_ids_of_parseFile {path markup : String} {templates : List Template}
    (parsed : parseFile path markup = .ok templates) : (templates.map Template.id).Nodup := by
  unfold parseFile at parsed
  split at parsed
  · simp at parsed
  · simp only [Except.ok.injEq] at parsed
    subst parsed
    exact nodup_keepFirst _ _

/-- Templates of one file are told apart by their identifiers. -/
theorem eq_of_id_eq {templates : List Template} (distinct : (templates.map Template.id).Nodup)
    {first second : Template} (firstIn : first ∈ templates) (secondIn : second ∈ templates)
    (same : first.id = second.id) : first = second :=
  List.inj_on_of_nodup_map distinct firstIn secondIn same

end Template

namespace Cache

@[simp] theorem find?_empty (id : String) : empty.find? id = none := rfl

@[simp] theorem isFetched_empty (path : String) : empty.isFetched path = false := rfl

/-- A template is added unless its identifier is held. -/
theorem get?_add (templates : OrderedMap Template) (template : Template) (id : String) :
    (add templates template).get? id =
      (templates.get? id).or (if template.id = id then some template else none) := by
  rw [add, OrderedMap.contains_eq_isSome_get?]
  by_cases same : template.id = id
  · subst same
    cases held : templates.get? template.id with
    | some kept => simp [held]
    | none => simp [OrderedMap.get?_insert]
  · cases held : templates.get? template.id with
    | some kept => simp [same]
    | none => simp [OrderedMap.get?_insert, Ne.symm same, same]

/-- Of the added templates the first under an identifier counts. -/
theorem get?_foldl_add (templates : List Template) (held : OrderedMap Template) (id : String) :
    (templates.foldl add held).get? id =
      (held.get? id).or (templates.find? (·.id = id)) := by
  induction templates generalizing held with
  | nil => simp
  | cons template rest inductionHypothesis =>
      rw [List.foldl_cons, inductionHypothesis, get?_add, Option.or_assoc, List.find?_cons]
      by_cases same : template.id = id <;> simp [same]

/-- A registration adds the templates of a file under the identifiers that are free. -/
theorem find?_register (cache : Cache) (path : String) (templates : List Template) (id : String) :
    (cache.register path templates).find? id =
      (cache.find? id).or (templates.find? (·.id = id)) :=
  get?_foldl_add templates cache.templates id

/-- To register a file registers no other. -/
theorem isFetched_register (cache : Cache) (path : String) (templates : List Template)
    (other : String) :
    (cache.register path templates).isFetched other =
      (cache.isFetched other || decide (other = path)) := by
  by_cases known : cache.isFetched path = true
  · by_cases same : other = path
    · subst same
      simp [register, isFetched] at known ⊢
      simp [known]
    · simp [register, isFetched, same] at known ⊢
      simp [known]
  · simp [register, isFetched] at known ⊢
    simp [known]

variable {World : Type}

/-- A lookup finds the template, knows that it is missing, or fetches its file. -/
theorem resolve_cases (fetching : Fetching World) (key : TemplateKey) (cache : Cache)
    (world : World) :
    (∃ template, cache.find? key.id = some template ∧
      cache.resolve fetching key world = ((.ok template, cache), world)) ∨
    (cache.find? key.id = none ∧ cache.isFetched key.path = true ∧
      cache.resolve fetching key world =
        ((.error (.notFound key.id key.path), cache), world)) ∨
    (cache.find? key.id = none ∧ cache.isFetched key.path = false ∧
      cache.resolve fetching key world =
        (cache.receive key (fetching key.path world).1, (fetching key.path world).2)) := by
  cases found : cache.find? key.id with
  | some template =>
      refine .inl ⟨template, rfl, ?_⟩
      simp only [resolve, enter, found]
      rfl
  | none =>
      cases known : cache.isFetched key.path with
      | true =>
          refine .inr (.inl ⟨rfl, rfl, ?_⟩)
          simp only [resolve, enter, found, known, if_true, answer]
          rfl
      | false =>
          refine .inr (.inr ⟨rfl, rfl, ?_⟩)
          simp only [resolve, enter, found, known, Bool.false_eq_true, if_false]
          rfl

/-- A fresh cache asks the source for every key. -/
theorem resolve_empty (fetching : Fetching World) (key : TemplateKey) (world : World) :
    empty.resolve fetching key world =
      (empty.receive key (fetching key.path world).1, (fetching key.path world).2) := rfl

/-- An answer is a failure, a file that does not parse, or one to register. -/
theorem receive_cases (cache : Cache) (key : TemplateKey) (fetched : Except SourceError String) :
    (∃ cause, fetched = .error cause ∧
      cache.receive key fetched = (.error (.fetch key.path cause), cache)) ∨
    (∃ markup cause, fetched = .ok markup ∧ Template.parseFile key.path markup = .error cause ∧
      cache.receive key fetched = (.error cause, cache)) ∨
    (∃ markup templates, fetched = .ok markup ∧
      Template.parseFile key.path markup = .ok templates ∧
      cache.receive key fetched =
        ((cache.register key.path templates).answer key, cache.register key.path templates)) := by
  cases fetched with
  | error cause => exact .inl ⟨cause, rfl, rfl⟩
  | ok markup =>
      cases parsed : Template.parseFile key.path markup with
      | error cause =>
          exact .inr (.inl ⟨markup, cause, rfl, parsed, by simp only [receive, parsed]⟩)
      | ok templates =>
          exact .inr (.inr ⟨markup, templates, rfl, parsed, by simp only [receive, parsed]⟩)

/-- An answer without a fetch is cached. -/
theorem find?_of_enter {cache : Cache} {key : TemplateKey} {template : Template}
    (entered : cache.enter key = some (.ok template)) : cache.find? key.id = some template := by
  cases found : cache.find? key.id with
  | some held =>
      simp only [enter, found, Option.some.injEq, Except.ok.injEq] at entered
      rw [entered]
  | none =>
      simp only [enter, found, answer] at entered
      split at entered
      · cases entered
      · cases entered

/-- The template that answers a fetched key is cached. -/
theorem find?_of_receive {cache : Cache} {key : TemplateKey} {template : Template}
    {fetched : Except SourceError String}
    (received : (cache.receive key fetched).1 = .ok template) :
    (cache.receive key fetched).2.find? key.id = some template := by
  rcases receive_cases cache key fetched with
    ⟨_, -, result⟩ | ⟨_, _, -, -, result⟩ | ⟨_, templates, -, -, result⟩
  · rw [result] at received
    cases received
  · rw [result] at received
    cases received
  · rw [result] at received ⊢
    simp only [answer] at received
    split at received
    · rename_i held found
      rw [found, Except.ok.inj received]
    · cases received

end Cache

end Stencil
