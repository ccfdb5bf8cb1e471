/-!
# Failures

Each failure is a cause; its wording is in one place. Only a reference to an activity that does not
exist means that the overview and the compositor disagree.
-/

namespace TaskSwitcher

/-- Why something could not be done. -/
inductive Failure where
  /-- Settings or a scenario cannot be read. -/
  | configuration (reason : String)
  /-- A file cannot be read. -/
  | file (reason : String)
  /-- No activity belongs to the named window, or the address leads nowhere. -/
  | activityNotFound (subject : String)
  /-- A splash without a token cannot be raised. -/
  | missingStartupId (appId : String)
  /-- A card was given a size that cannot be drawn. -/
  | invalidSize (width height : Int32)
  /-- Events are no longer taken. -/
  | channelClosed (reason : String)
deriving DecidableEq

namespace Failure

/-- The message shown for a failure. -/
def message : Failure → String
  | configuration reason => "Ошибка конфигурации: " ++ reason
  | file reason => "Ошибка ввода-вывода: " ++ reason
  | activityNotFound subject => "Активность для окна " ++ subject ++ " не найдена"
  | missingStartupId appId => "Нет startup-id для " ++ appId ++ ", сплэш не поднять"
  | invalidSize width height =>
      "Недопустимый размер карточки: " ++ toString width.toInt ++ "x" ++ toString height.toInt
  | channelClosed reason => "Канал событий закрыт: " ++ reason

/-- Whether the failure shows that overview and compositor disagree about the open windows. -/
def isDisagreement : Failure → Bool
  | activityNotFound _ => true
  | _ => false

end Failure

/-- How an attempt ends that has no result but its effects. -/
abbrev Outcome := Except Failure Unit

end TaskSwitcher
