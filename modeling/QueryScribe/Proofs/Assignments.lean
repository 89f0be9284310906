import QueryScribe.Proofs.Java.Assignment
import QueryScribe.Proofs.Java.Validation
import QueryScribe.Proofs.Mapper.Writing

/-!
# Assignments across dialects

An update sets the fields that its source shares with its target. The chain of the service method
does so by calls with flags, the statement by elements with tests. Both are read back here and
decided for the same values: a bean gives them through accessors, parameters give them by name.

Results:
1. `filter_sharedFields`: which of the shared fields are assigned.
2. `assignments_agree`: both dialects assign the same fields, whatever is selected.
-/

namespace QueryScribe

open Java Mapper

/-- The fields that an update assigns: those of the source whose exact name the target declares and
whose values are there, in the source's order. The declared type of the source counts. -/
def assignedFields (contents : String → Content) (source target : Entity) : List Field :=
  source.fields.filter fun field => target.hasField field.name && field.isPresent contents

/-- Whether a bean gives the contents of fields through their accessors. -/
def Java.Bean.Gives (bean : Bean) (contents : String → Content) (fields : List Field) : Prop :=
  ∀ field ∈ fields, bean (accessor field.name) = contents field.name

/-- Assigned are the shared fields that are present. -/
theorem filter_sharedFields (contents : String → Content) (query : Query) :
    query.sharedFields.filter (·.isPresent contents)
      = assignedFields contents query.source query.target := by
  rw [Query.sharedFields, assignedFields, List.filter_filter]
  exact List.filter_congr fun field _ => Bool.and_comm _ _

/-- Updates from a source to a target assign the same fields in both dialects. For every bean that
gives the contents, the calls of the chain whose flags hold set the columns of the assigned fields,
each from its own accessor; the elements of the statement whose tests hold set them in the same
order, each from its own placeholder. Whatever an update selects has no part in this. -/
theorem assignments_agree (source target : Entity)
    (declared : ∀ field ∈ source.fields, IsTestName field.name)
    (owner : Text.HasWordChars target.name) (contents : String → Content)
    (alike : ∀ first ∈ source.fields, ∀ second ∈ source.fields,
      accessor first.name = accessor second.name → contents first.name = contents second.name) :
    (∃ bean : Bean, bean.Gives contents source.fields)
      ∧ ∀ query : Query, query.source = source → query.target = target →
        query.operation = .update →
        ∃ sets content settings parts,
          query.text .fluent = serviceText query (updateText query sets)
          ∧ readSettings sets = some settings
          ∧ query.text .markup = updateMarkup query content
          ∧ readSet content = some parts
          ∧ (∀ bean : Bean, bean.Gives contents source.fields →
            settled bean settings = some ((assignedFields contents source target).map fun field =>
              (methodReference target.name field.name, accessor field.name)))
          ∧ collect readAssignment contents parts
            = .ok (some ((assignedFields contents source target).map fun field =>
              (snakeCase field.name, placeholder field.name))) := by
  constructor
  · obtain ⟨bean, -, names⟩ := exists_bean_of_names contents
      (source.fields.map (·.name)) (by simpa using alike)
    exact ⟨bean, by simpa [Bean.Gives] using names⟩
  · rintro query rfl rfl updates
    have named (field : Field) (shared : field ∈ query.sharedFields) : IsTestName field.name :=
      declared field (List.mem_filter.mp shared).1
    have isName (field : Field) (shared : field ∈ query.sharedFields) := (named field shared).1
    have fluent := text_fluent query
    rw [text_chain_of_update updates] at fluent
    refine ⟨_, _, _, _, fluent, readSettings_assignments owner isName,
      text_markup_of_update updates,
      readSet_setContent fun field shared => Text.isWordChar_of_mem (isName field shared),
      fun bean gives => ?_, ?_⟩
    · rw [settled_assignments isName fun field shared => gives field (List.mem_filter.mp shared).1,
        filter_sharedFields]
    · rw [collect_settings contents named, filter_sharedFields]

/-- An update of articles by their number. The source declares its code twice. -/
def articleUpdate : Query where
  source := ⟨"Article", "app.Article",
    [⟨"code", "String"⟩, ⟨"page", "Integer"⟩, ⟨"code", "Integer"⟩,
     ⟨"searchTags", "List<String>"⟩]⟩
  target := ⟨"StoredArticle", "app.StoredArticle",
    [⟨"searchTags", "String"⟩, ⟨"number", "Long"⟩, ⟨"code", "Long"⟩]⟩
  selections := [⟨⟨"number", "Long"⟩, .ge, .or, "article number"⟩]
  operation := .update
  selections_ne_nil := by decide
  fits := by decide

theorem articleUpdate_assigns :
    (∀ field ∈ articleUpdate.source.fields, IsTestName field.name)
      ∧ Text.HasWordChars articleUpdate.target.name
      ∧ (∀ first ∈ articleUpdate.source.fields, ∀ second ∈ articleUpdate.source.fields,
        accessor first.name = accessor second.name →
          emptyCode first.name = emptyCode second.name)
      ∧ ∃ bean sets content settings parts,
        articleUpdate.text .fluent = serviceText articleUpdate (updateText articleUpdate sets)
        ∧ readSettings sets = some settings
        ∧ articleUpdate.text .markup = updateMarkup articleUpdate content
        ∧ readSet content = some parts
        ∧ Bean.Gives bean emptyCode articleUpdate.source.fields
        ∧ settled bean settings
          = some [("StoredArticle::getCode", "entity.getCode()"),
            ("StoredArticle::getSearchTags", "entity.getSearchTags()")]
        ∧ collect readAssignment emptyCode parts
          = .ok (some [("code", "#\x7bcode\x7d"), ("search_tags", "#\x7bsearchTags\x7d")]) := by
  have declared : ∀ field ∈ articleUpdate.source.fields, IsTestName field.name := by decide
  have alike : ∀ first ∈ articleUpdate.source.fields, ∀ second ∈ articleUpdate.source.fields,
      accessor first.name = accessor second.name →
        emptyCode first.name = emptyCode second.name := by decide
  obtain ⟨⟨bean, gives⟩, each⟩ :=
    assignments_agree articleUpdate.source articleUpdate.target declared (by decide) emptyCode alike
  obtain ⟨sets, content, settings, parts, fluent, calls, markup, elements, settles, collects⟩ :=
    each articleUpdate rfl rfl rfl
  exact ⟨declared, by decide, alike, bean, sets, content, settings, parts, fluent, calls, markup,
    elements, gives, (settles bean gives).trans (by decide),
    collects.trans (congrArg Except.ok (by decide))⟩

end QueryScribe
