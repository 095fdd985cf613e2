import CorpusJudge.Application.Run
import CorpusJudge.Emulator.Platform

/-!
# The application on an emulated computer

The application itself takes the operating system as it comes.  Where it is imported from here, the
operating system is that of an emulated computer.
-/
