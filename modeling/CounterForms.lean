import CounterForms.Answers.Source
import CounterForms.CommandLine.Run
import CounterForms.Main
import CounterForms.Session
import CounterForms.Terminal.Drawing
import CounterForms.Terminal.KeyInput
import CounterForms.Proofs.CommandLine.Commuting
import CounterForms.Proofs.CommandLine.ReadBack
import CounterForms.Proofs.CommandLine.Run
import CounterForms.Proofs.Filling.Agreement
import CounterForms.Proofs.Filling.Untouched
import CounterForms.Proofs.Answers.Calls
import CounterForms.Proofs.Answers.Counting
import CounterForms.Proofs.Answers.Judging
import CounterForms.Proofs.Answers.Ordering
import CounterForms.Proofs.Answers.Retrying
import CounterForms.Proofs.Answers.Unchanged
import CounterForms.Proofs.Form.Stepping
import CounterForms.Proofs.Key.Sharing
import CounterForms.Proofs.Key.Typed
import CounterForms.Proofs.Screen.Affordance
import CounterForms.Proofs.Screen.AnswerCount
import CounterForms.Proofs.Session.Calling
import CounterForms.Proofs.Session.Starting
import CounterForms.Proofs.Session.Status
import CounterForms.Proofs.Storage.StandardAnswers
import CounterForms.Proofs.Palette.Reading
import CounterForms.Proofs.Palette.Chains
import CounterForms.Proofs.Config.Defaults

