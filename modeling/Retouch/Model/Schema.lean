import Retouch.Model.Check
import Retouch.Model.Report

/-!
# Requests and reports as data

For each kind of request and report, how it is written as a value, and how a value is checked to be
one. Fields are read under both spellings of their names, unknown fields are passed over, and most
fields that are left out have a default.
-/

namespace Retouch

namespace Location

/-- Writes a location. -/
def dump (style : Style) (location : Location) : Value :=
  .record style [
    (⟨"file_path", "filePath"⟩, .text location.path),
    (.plain "line", .int location.line),
    (.plain "column", .int location.column)]

/-- Checks a location. -/
def check : Value → Checked Location :=
  Check.object fun fields =>
    (fun path line column => ⟨path.1, line.1, column.1, path.2.1, path.2.2, line.2⟩) <$>
      Check.required fields ⟨"file_path", "filePath"⟩ Check.nonEmptyText <*>
      Check.required fields (.plain "line") (Check.intFrom 1) <*>
      Check.required fields (.plain "column") (Check.intFrom 0)

end Location

/-- The tag of literal values. -/
def staticTag : String := "static"

/-- The tag of computed values. -/
def dynamicTag : String := "dynamic"

namespace ClassName

/-- Writes a report on a class name. -/
def dump (style : Style) : ClassName → Value
  | .static value => .record style [(Check.tagLabel, .ofString staticTag), (.plain "value", .text value)]
  | .dynamic expression condition trueValue falseValue =>
    .record style [
      (Check.tagLabel, .ofString dynamicTag),
      (.plain "expression", .ofOption .text expression),
      (.plain "condition", .ofOption .text condition),
      (⟨"true_value", "trueValue"⟩, .ofOption .text trueValue),
      (⟨"false_value", "falseValue"⟩, .ofOption .text falseValue)]

/-- Checks a literal value. -/
def checkStatic : Value → Checked ClassName :=
  Check.object fun fields =>
    (fun _ value => .static value) <$>
      Check.withDefault fields Check.tagLabel () (Check.literal staticTag) <*>
      Check.withDefault fields (.plain "value") [] Check.text

/-- Checks a computed class name. -/
def checkDynamic : Value → Checked ClassName :=
  Check.object fun fields =>
    (fun _ expression condition trueValue falseValue =>
      .dynamic expression condition trueValue falseValue) <$>
      Check.withDefault fields Check.tagLabel () (Check.literal dynamicTag) <*>
      Check.withDefault fields (.plain "expression") none (Check.optional Check.text) <*>
      Check.withDefault fields (.plain "condition") none (Check.optional Check.text) <*>
      Check.withDefault fields ⟨"true_value", "trueValue"⟩ none (Check.optional Check.text) <*>
      Check.withDefault fields ⟨"false_value", "falseValue"⟩ none (Check.optional Check.text)

/-- Checks a report on a class name. -/
def check : Value → Checked ClassName :=
  Check.tagged [(staticTag, checkStatic), (dynamicTag, checkDynamic)]

end ClassName

namespace TextContent

/-- All reasons. -/
def Reason.all : List Reason := [.hasElementChildren, .dynamicExpression]

/-- Writes a report on text content. -/
def dump (style : Style) : TextContent → Value
  | .static value => .record style [(Check.tagLabel, .ofString staticTag), (.plain "value", .text value)]
  | .dynamic reason expression =>
    .record style [
      (Check.tagLabel, .ofString dynamicTag),
      (.plain "reason", .ofString reason.code),
      (.plain "expression", .ofOption .text expression)]

/-- Checks literal content. -/
def checkStatic : Value → Checked TextContent :=
  Check.object fun fields =>
    (fun _ value => .static value) <$>
      Check.withDefault fields Check.tagLabel () (Check.literal staticTag) <*>
      Check.withDefault fields (.plain "value") [] Check.text

/-- Checks content that is not literal. -/
def checkDynamic : Value → Checked TextContent :=
  Check.object fun fields =>
    (fun _ reason expression => .dynamic reason expression) <$>
      Check.withDefault fields Check.tagLabel () (Check.literal dynamicTag) <*>
      Check.required fields (.plain "reason") (Check.oneOf Reason.code Reason.all) <*>
      Check.withDefault fields (.plain "expression") none (Check.optional Check.text)

/-- Checks a report on text content. -/
def check : Value → Checked TextContent :=
  Check.tagged [(staticTag, checkStatic), (dynamicTag, checkDynamic)]

end TextContent

namespace Placement

/-- All reasons. -/
def Reason.all : List Reason := [.conditional, .mapCall, .complexParent]

/-- Writes a placement. -/
def dump (style : Style) : Placement → Value
  | .static => .record style [(Check.tagLabel, .ofString staticTag)]
  | .dynamic reason =>
    .record style [(Check.tagLabel, .ofString dynamicTag), (.plain "reason", .ofString reason.code)]

/-- Checks a static placement. -/
def checkStatic : Value → Checked Placement :=
  Check.object fun fields =>
    (fun _ => .static) <$> Check.withDefault fields Check.tagLabel () (Check.literal staticTag)

/-- Checks a dynamic placement. -/
def checkDynamic : Value → Checked Placement :=
  Check.object fun fields =>
    (fun _ reason => .dynamic reason) <$>
      Check.withDefault fields Check.tagLabel () (Check.literal dynamicTag) <*>
      Check.required fields (.plain "reason") (Check.oneOf Reason.code Reason.all)

/-- Checks a placement. -/
def check : Value → Checked Placement :=
  Check.tagged [(staticTag, checkStatic), (dynamicTag, checkDynamic)]

end Placement

namespace Updates

/-- Writes requested updates. -/
def dump (style : Style) (updates : Updates) : Value :=
  .record style [
    (⟨"class_name", "className"⟩, .ofOption .text updates.className),
    (⟨"text_content", "textContent"⟩, .ofOption .text updates.textContent)]

/-- Checks requested updates. -/
def check : Value → Checked Updates :=
  Check.object fun fields =>
    Updates.mk <$>
      Check.withDefault fields ⟨"class_name", "className"⟩ none (Check.optional Check.text) <*>
      Check.withDefault fields ⟨"text_content", "textContent"⟩ none (Check.optional Check.text)

end Updates

namespace NearbyElement

/-- Writes what is reported of an element. -/
def dump (style : Style) (element : NearbyElement) : Value :=
  .record style [
    (.plain "line", .int element.line),
    (.plain "column", .int element.column),
    (.plain "tag", .text element.tag)]

/-- Checks what is reported of an element. -/
def check : Value → Checked NearbyElement :=
  Check.object fun fields =>
    NearbyElement.mk <$>
      Check.required fields (.plain "line") Check.int <*>
      Check.required fields (.plain "column") Check.int <*>
      Check.required fields (.plain "tag") Check.text

end NearbyElement

namespace Diagnostics

/-- Writes what a search has seen. -/
def dump (style : Style) (diagnostics : Diagnostics) : Value :=
  .record style [
    (.plain "scanned", .int diagnostics.scanned),
    (.plain "nearby", .list (diagnostics.nearby.map (NearbyElement.dump style)))]

/-- Checks what a search has seen. -/
def check : Value → Checked Diagnostics :=
  Check.object fun fields =>
    Diagnostics.mk <$>
      Check.withDefault fields (.plain "scanned") 0 Check.int <*>
      Check.withDefault fields (.plain "nearby") [] (Check.list NearbyElement.check)

end Diagnostics

/-- Checks the code of a kind of failure. -/
def FailureKind.check : Value → Checked FailureKind :=
  Check.oneOf FailureKind.code FailureKind.all

namespace AnalysisReport

/-- Writes the answer to an analysis. -/
def dump (style : Style) (report : AnalysisReport) : Value :=
  .record style [
    (.plain "success", .bool report.success),
    (⟨"component_id", "componentId"⟩, .text report.componentId),
    (.plain "tag", .ofOption .text report.tag),
    (⟨"class_name", "className"⟩, .ofOption (ClassName.dump style) report.className),
    (⟨"text_content", "textContent"⟩, .ofOption (TextContent.dump style) report.textContent),
    (⟨"element_type", "elementType"⟩, .ofOption (Placement.dump style) report.placement),
    (.plain "error", .ofOption .text report.error),
    (⟨"error_kind", "errorKind"⟩, .ofOption (fun kind => .ofString kind.code) report.errorKind),
    (.plain "diagnostics", .ofOption (Diagnostics.dump style) report.diagnostics)]

/-- Checks the answer to an analysis. -/
def check : Value → Checked AnalysisReport :=
  Check.object fun fields =>
    AnalysisReport.mk <$>
      Check.required fields (.plain "success") Check.bool <*>
      Check.required fields ⟨"component_id", "componentId"⟩ Check.text <*>
      Check.withDefault fields (.plain "tag") none (Check.optional Check.text) <*>
      Check.withDefault fields ⟨"class_name", "className"⟩ none (Check.optional ClassName.check) <*>
      Check.withDefault fields ⟨"text_content", "textContent"⟩ none (Check.optional TextContent.check) <*>
      Check.withDefault fields ⟨"element_type", "elementType"⟩ none (Check.optional Placement.check) <*>
      Check.withDefault fields (.plain "error") none (Check.optional Check.text) <*>
      Check.withDefault fields ⟨"error_kind", "errorKind"⟩ none (Check.optional FailureKind.check) <*>
      Check.withDefault fields (.plain "diagnostics") none (Check.optional Diagnostics.check)

end AnalysisReport

namespace MutationReport

/-- Writes the answer to a change. -/
def dump (style : Style) (report : MutationReport) : Value :=
  .record style [
    (.plain "success", .bool report.success),
    (⟨"file_path", "filePath"⟩, .ofOption .text report.filePath),
    (.plain "changed", .bool report.changed),
    (.plain "error", .ofOption .text report.error),
    (⟨"error_kind", "errorKind"⟩, .ofOption (fun kind => .ofString kind.code) report.errorKind),
    (.plain "diagnostics", .ofOption (Diagnostics.dump style) report.diagnostics)]

/-- Checks the answer to a change. -/
def check : Value → Checked MutationReport :=
  Check.object fun fields =>
    MutationReport.mk <$>
      Check.required fields (.plain "success") Check.bool <*>
      Check.withDefault fields ⟨"file_path", "filePath"⟩ none (Check.optional Check.text) <*>
      Check.withDefault fields (.plain "changed") false Check.bool <*>
      Check.withDefault fields (.plain "error") none (Check.optional Check.text) <*>
      Check.withDefault fields ⟨"error_kind", "errorKind"⟩ none (Check.optional FailureKind.check) <*>
      Check.withDefault fields (.plain "diagnostics") none (Check.optional Diagnostics.check)

end MutationReport

end Retouch
