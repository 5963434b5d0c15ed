import ReleasePipeline.Json.Record
import ReleasePipeline.Text.Blank

/-!
# `ReleasePipeline.Trigger`: what sets a pipeline going

A pipeline is set going by a commit on a branch, with a tag or without. Only whether the tag is
blank counts.
-/

set_option autoImplicit false

namespace ReleasePipeline

/-- What sets a pipeline going. -/
structure Trigger where
  branch : String
  tagBlank : Bool
  commit : String
  deriving DecidableEq, Repr

namespace Trigger

/-- The trigger of a commit on a branch, under a tag if one is given. -/
def ofPush (branch : String) (tag : Option String) (commit : String) : Trigger where
  branch := branch
  tagBlank := tag.all Text.isBlankText
  commit := commit

instance : JsonForm Trigger where
  toJson trigger := .obj
    [("branch", toJson trigger.branch), ("tag_blank", toJson trigger.tagBlank),
     ("commit", toJson trigger.commit)]
  ofReading := Fields.record <|
    Trigger.mk <$> .required "branch" <*> .required "tag_blank" <*> .required "commit"

end Trigger
end ReleasePipeline
