import BemLint.Rule.Basic

/-!
# Examples for the rules

For each rule a source text that breaks it and one that keeps it, with the language of both and
sometimes a remark.
-/
namespace BemLint

structure RuleExample where
  language : Text
  bad : Text
  good : Text
  notes : Option Text
deriving DecidableEq, Repr

namespace Rule

def usage : Rule → RuleExample
  | .noElementNesting =>
    ⟨"html".toList, "<span class=\"card__body__title\"></span>\n".toList,
      "<span class=\"card__body-title\"></span>\n".toList,
      some "Only the first `__` introduces an element; later segments are joined with `-`.".toList⟩
  | .blockName =>
    ⟨"html".toList, "<div class=\"ProfileCard\"></div>\n".toList,
      "<div class=\"profile-card\"></div>\n".toList, none⟩
  | .elementDelimiter =>
    ⟨"html".toList,
      "<h2 class=\"profile-card-title\"></h2>\n<h2 class=\"profile_title\"></h2>\n".toList,
      "<h2 class=\"profile-card__title\"></h2>\n<h2 class=\"profile__title\"></h2>\n".toList,
      some ("A single `_` and three or more hyphen-joined parts both suggest a " ++
        "mis-delimited element.").toList⟩
  | .modifierDelimiter =>
    ⟨"jsx".toList, "<button className=\"button__icon_large\" />\n".toList,
      "<button className=\"button__icon--large\" />\n".toList,
      some ("Two-part kebab names (`card-active`) are also reported as a possible " ++
        "single-hyphen modifier.").toList⟩
  | .modifierFormat =>
    ⟨"html".toList, "<div class=\"card--\"></div>\n<div class=\"--large\"></div>\n".toList,
      "<div class=\"card--large\"></div>\n".toList, none⟩

end Rule
end BemLint
